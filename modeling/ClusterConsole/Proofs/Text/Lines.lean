import Mathlib.Algebra.Ring.Nat

/-! # Lines

A line ends in a line feed, or in a carriage return and a line feed. What stands behind the last line feed is a line
if there is anything. -/

namespace ClusterConsole

/-- A line without the carriage return that belongs to its end. -/
def withoutReturn (line : List Char) : List Char :=
  if line.getLast? = some '\r' then line.dropLast else line

/-- The lines of a text. -/
def textLines (text : String) : List (List Char) :=
  let pieces := text.toList.splitOn '\n'
  pieces.dropLast.map withoutReturn ++ pieces.getLast?.toList.filter (· ≠ [])

example : textLines "a\r\n\nb" = [['a'], [], ['b']] := by decide

section
variable {chunks : List (List Char)}

theorem length_splitOn (c : Char) (text : List Char) : (text.splitOn c).length = text.count c + 1 := by
  induction text with
  | nil => rfl
  | cons x text ih =>
    rw [List.splitOn_cons_eq_if_modifyHead, List.count_cons]
    split
    · rw [List.length_cons, ih]
    · rw [List.length_modifyHead, ih]

theorem splitOn_chunks (chunks : List (List Char)) : (chunks.flatMap (· ++ ['\n'])).splitOn '\n' =
    chunks.flatMap (List.splitOn '\n') ++ [[]] := by
  induction chunks with
  | nil => rfl
  | cons chunk chunks ih =>
    rw [List.flatMap_cons, List.append_assoc, List.singleton_append, List.splitOn_append_cons_self, ih,
      List.flatMap_cons, List.append_assoc]

/-- The lines of chunks that are each ended by a line feed are those that the line feeds in the chunks part. -/
theorem textLines_chunks (chunks : List (List Char)) : textLines (String.ofList (chunks.flatMap (· ++ ['\n']))) =
    chunks.flatMap fun chunk => (chunk.splitOn '\n').map withoutReturn := by
  rw [textLines, String.toList_ofList, splitOn_chunks, List.dropLast_concat, List.getLast?_concat, List.map_flatMap]
  exact List.append_nil _

theorem length_textLines_chunks (chunks : List (List Char)) :
    (textLines (String.ofList (chunks.flatMap (· ++ ['\n'])))).length =
      chunks.length + (chunks.map (List.count '\n')).sum := by
  rw [textLines_chunks]
  induction chunks with
  | nil => rfl
  | cons chunk chunks ih =>
    rw [List.flatMap_cons, List.length_append, ih, List.length_map, length_splitOn, List.length_cons, List.map_cons,
      List.sum_cons]
    omega

theorem textLines_cons_of_unbroken {chunk : List Char} (hbreak : '\n' ∉ chunk) (hreturn : chunk.getLast? ≠ some '\r')
    (chunks : List (List Char)) : textLines (String.ofList ((chunk :: chunks).flatMap (· ++ ['\n']))) =
      chunk :: textLines (String.ofList (chunks.flatMap (· ++ ['\n']))) := by
  rw [textLines_chunks, textLines_chunks, List.flatMap_cons, List.splitOn_eq_singleton hbreak, List.map_singleton,
    withoutReturn, if_neg hreturn, List.singleton_append]

/-- Chunks without line feeds that end in no carriage return are the lines. -/
theorem textLines_of_unbroken (hbreak : ∀ chunk ∈ chunks, '\n' ∉ chunk)
    (hreturn : ∀ chunk ∈ chunks, chunk.getLast? ≠ some '\r') :
    textLines (String.ofList (chunks.flatMap (· ++ ['\n']))) = chunks := by
  induction chunks with
  | nil => rfl
  | cons chunk chunks ih =>
    obtain ⟨hbreak, hmore⟩ := List.forall_mem_cons.mp hbreak
    obtain ⟨hreturn, hmore'⟩ := List.forall_mem_cons.mp hreturn
    rw [textLines_cons_of_unbroken hbreak hreturn, ih hmore hmore']

end

end ClusterConsole
