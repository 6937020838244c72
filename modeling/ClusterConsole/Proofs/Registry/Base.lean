import ClusterConsole.Proofs.Registry.Client
import ClusterConsole.Proofs.Url.Written

/-! # What is kept of the address of the registry

The list of nodes is asked for at the address of the registry with a longer path. A slash at the end of that address
makes no difference. -/

namespace ClusterConsole

namespace Route

/-- The segments of the route of the list of nodes. -/
def clusterSegments : Path := ["api".toList, "v1".toList, "cluster".toList]

theorem segments_cluster : segments cluster = clusterSegments := by decide +kernel

theorem verbatim_clusterSegments : ∀ t ∈ clusterSegments, Path.Verbatim t := by
  intro t ht
  simp only [clusterSegments, List.mem_cons, List.not_mem_nil, or_false] at ht
  obtain rfl | rfl | rfl := ht
  all_goals exact ⟨by decide, by decide, by decide, by decide⟩

end Route

namespace Path
variable {path : Path}

theorem withoutTrailingSlash_of_last (h : path.getLast? ≠ some []) : path.withoutTrailingSlash = path :=
  if_neg fun hboth => h hboth.1

theorem withoutTrailingSlash_concat_nil (h : path ≠ []) : withoutTrailingSlash (path ++ [[]]) = path := by
  have hroot : path ++ [[]] ≠ [[]] := fun heq => h (List.append_left_eq_self.mp heq)
  rw [withoutTrailingSlash, if_pos ⟨List.getLast?_concat, hroot⟩, List.dropLast_concat]

/-- Leaving out a slash at the end leaves out no segment but an empty one. -/
theorem filter_stem (path : Path) : path.stem.filter (· ≠ []) = path.filter (· ≠ []) := by
  have htrimmed : path.withoutTrailingSlash.filter (· ≠ []) = path.filter (· ≠ []) := by
    unfold withoutTrailingSlash
    split
    · rename_i hlast
      obtain ⟨front, rfl⟩ := List.getLast?_eq_some_iff.mp hlast.1
      simp
    · rfl
  rw [← htrimmed]
  unfold stem
  split
  · rename_i hroot
    rw [hroot]
    rfl
  · rfl

theorem mem_of_mem_stem {segment : List Char} (h : segment ∈ path.stem) : segment ∈ path := by
  unfold stem at h
  split at h
  · cases h
  · unfold withoutTrailingSlash at h
    split at h
    · exact (List.dropLast_sublist path).mem h
    · exact h

end Path

namespace RegistryClient
variable {text : String} {timeout : Nat} {c : RegistryClient}

theorem parse_of_ofUrl (h : ofUrl text timeout = .ok c) : Url.parse text.toList = .ok (.web c.base) := by
  unfold ofUrl at h
  split at h
  · cases h
  · cases h
  · rename_i base hbase
    rw [Url.cannotCarryPath_eq_false] at h
    cases h
    exact hbase

theorem divided_of_ofUrl (h : ofUrl text timeout = .ok c) : Path.Divided c.base.path :=
  Url.divided_of_parse (parse_of_ofUrl h)

/-- A web address is not refused for want of a path. -/
theorem ofUrl_ne_withoutPath (text : String) (timeout : Nat) :
    ofUrl text timeout ≠ .error (.invalidBaseUrl text .withoutPath) := by
  unfold ofUrl
  split
  · nofun
  · nofun
  · rw [Url.cannotCarryPath_eq_false]
    nofun

theorem endpoint_cluster (c : RegistryClient) :
    c.endpoint Route.cluster = { c.base with path := Path.stem c.base.path ++ Route.clusterSegments } := by
  have hextend : Path.extend (Path.withoutTrailingSlash c.base.path) (Route.segments Route.cluster) =
      Path.stem c.base.path ++ Route.clusterSegments := by
    rw [Route.segments_cluster, Path.extend_of_verbatim Route.verbatim_clusterSegments (by decide)]
    rfl
  rw [endpoint_eq, hextend]

theorem segments_endpoint_cluster (h : Path.Divided c.base.path) : (c.endpoint Route.cluster).segments =
    c.base.segments ++ ["api".toList, "v1".toList, "cluster".toList] := by
  have hroute : ∀ segment ∈ Route.clusterSegments, '/' ∉ segment := by decide
  have hpath : ∀ segment ∈ Path.stem c.base.path ++ Route.clusterSegments, '/' ∉ segment := by
    intro segment hsegment
    rcases List.mem_append.mp hsegment with hstem | hmem
    · exact h.noSlash segment (Path.mem_of_mem_stem hstem)
    · exact hroute segment hmem
  rw [endpoint_cluster, Url.segments_eq hpath, Url.segments_eq h.noSlash, List.filter_append, Path.filter_stem]
  rfl

/-- Two addresses of which one has a slash more at the end of its path lead to the same endpoints. -/
theorem endpoint_of_slash {c' : RegistryClient} (h : Path.Divided c.base.path) (h' : Path.Divided c'.base.path)
    (hbase : c'.base = { c.base with path := c'.base.path }) (hslash : c'.base.pathText = c.base.pathText ++ ['/'])
    (hlast : c.base.pathText.getLast? ≠ some '/') (route : String) (id : Option String) :
    c'.endpoint route id = c.endpoint route id := by
  have hpath : c'.base.path = c.base.path ++ [[]] := by
    have hnoSlash : ∀ segment ∈ c.base.path ++ [[]], '/' ∉ segment := by
      intro segment hsegment
      rcases List.mem_append.mp hsegment with hmem | hnil
      · exact h.noSlash segment hmem
      · obtain rfl := List.mem_singleton.mp hnil
        exact List.not_mem_nil
    refine Url.path_of_pathText_eq (v := { c.base with path := c.base.path ++ [[]] }) h'.noSlash hnoSlash ?_
    rw [hslash, Url.pathText_concat]
  have hend : c.base.path.getLast? ≠ some [] := by
    intro hnil
    obtain ⟨front, hfront⟩ := List.getLast?_eq_some_iff.mp hnil
    refine hlast ?_
    rw [Url.pathText, hfront]
    simp
  rw [endpoint_eq, endpoint_eq, hbase, hpath, Path.withoutTrailingSlash_concat_nil h.notEmpty,
    Path.withoutTrailingSlash_of_last hend]

/-- Of an address that is accepted, the list of nodes is asked for where all but the path is the same, and where the
    segments of the path come before those of the route. One slash more or less at the end of the path makes no
    difference to any endpoint. The address can carry a path, so that it is never taken for an endpoint itself, and no
    address is refused because it could not. -/
theorem endpoint_of_accepted (h : ofUrl text timeout = .ok c) :
    c.endpoint Route.cluster = { c.base with path := (c.endpoint Route.cluster).path } ∧
      (c.endpoint Route.cluster).segments = c.base.segments ++ ["api".toList, "v1".toList, "cluster".toList] ∧
      (∀ text' timeout' c', ofUrl text' timeout' = .ok c' → c'.base = { c.base with path := c'.base.path } →
        c'.base.pathText = c.base.pathText ++ ['/'] → c.base.pathText.getLast? ≠ some '/' →
          ∀ route id, c'.endpoint route id = c.endpoint route id) ∧
      c.base.cannotCarryPath = false ∧
      ∀ text' timeout', ofUrl text' timeout' ≠ .error (.invalidBaseUrl text' .withoutPath) := by
  refine ⟨?_, segments_endpoint_cluster (divided_of_ofUrl h), ?_, c.base.cannotCarryPath_eq_false,
    ofUrl_ne_withoutPath⟩
  · rw [endpoint_cluster]
  · intro text' timeout' c' h' hbase hslash hlast
    exact endpoint_of_slash (divided_of_ofUrl h) (divided_of_ofUrl h') hbase hslash hlast

/-- An address with all its parts and an empty segment within its path, without a slash at the end and with one. -/
theorem endpoint_of_slashed :
    let plain : RegistryClient :=
      { base := { scheme := .https, username := ['u'], password := ['p'], host := .name ['h'], port := some 8080
                  path := ["a%20b".toList, [], ['c']], query := some ['q'], fragment := some ['f'] }
        timeout := 5000 }
    let slashed : RegistryClient :=
      { plain with base := { plain.base with path := ["a%20b".toList, [], ['c'], []] } }
    ofUrl "https://u:p@h:8080/a b//c?q#f" = .ok plain ∧ ofUrl "https://u:p@h:8080/a b//c/?q#f" = .ok slashed ∧
      slashed.base.pathText = plain.base.pathText ++ ['/'] ∧ plain.base.pathText.getLast? ≠ some '/' ∧
      (plain.endpoint Route.cluster).segments =
        ["a%20b".toList, ['c']] ++ ["api".toList, "v1".toList, "cluster".toList] ∧
      slashed.endpoint Route.cluster = plain.endpoint Route.cluster := by
  intro plain slashed
  have hplain : ofUrl "https://u:p@h:8080/a b//c?q#f" = .ok plain := by decide +kernel
  have hslashed : ofUrl "https://u:p@h:8080/a b//c/?q#f" = .ok slashed := by decide +kernel
  have hslash : slashed.base.pathText = plain.base.pathText ++ ['/'] := by decide +kernel
  have hlast : plain.base.pathText.getLast? ≠ some '/' := by decide +kernel
  obtain ⟨-, hsegments, hsame, -⟩ := endpoint_of_accepted hplain
  exact ⟨hplain, hslashed, hslash, hlast, hsegments, hsame _ _ _ hslashed rfl hslash hlast Route.cluster none⟩

end RegistryClient
end ClusterConsole
