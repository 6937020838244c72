import Mathlib.Algebra.Ring.Nat
import ClusterConsole.Listing.Options
import ClusterConsole.Proofs.Number.Decimal
import ClusterConsole.Proofs.Text.Reading

/-! # Command lines

A command line that gives options is read as one mention of an option after the other, whichever way each has its
value. So it comes to what its mentions ask for, in any order, unless two of them are of one option. -/

namespace ClusterConsole.Listing

/-! ### Mentions -/

/-- An option as a command line mentions it. -/
inductive Mention where
  | valued (option : Valued) (value : String)
  | utc

/-- A text that is taken for a value in an argument of its own: it does not begin with a dash, or is nothing else. -/
def IsPlain (text : String) : Prop :=
  ∀ c rest, text.toList ≠ '-' :: c :: rest

namespace Mention

/-- The arguments in which an option is mentioned: its value stands behind an equals sign or in an argument of its
    own. -/
inductive Written : Mention → List String → Prop
  | joined (option : Valued) (value : String) : Written (.valued option value) ["--" ++ option.name ++ "=" ++ value]
  | apart (option : Valued) {value : String} (h : IsPlain value) :
    Written (.valued option value) ["--" ++ option.name, value]
  | utc : Written .utc ["--utc"]

/-- The options given after a mention. -/
def take (g : Given) : Mention → Except UsageFault Given
  | .valued option value => g.assign option value
  | .utc => g.askUtc

end Mention

theorem ofString_long {argument : String} {name value : List Char}
    (h : argument.toList = '-' :: '-' :: (name ++ '=' :: value)) (hname : '=' ∉ name) :
    Argument.ofString argument = .long (String.ofList name) (some (String.ofList value)) := by
  have hneq : ∀ c ∈ name, (c != '=') = true := fun c hc => bne_iff_ne.mpr fun heq => hname (heq ▸ hc)
  have htake : (name ++ '=' :: value).takeWhile (· != '=') = name := by
    rw [List.takeWhile_append_of_pos hneq, List.takeWhile_cons_of_neg (by decide), List.append_nil]
  have hdrop : (name ++ '=' :: value).dropWhile (· != '=') = '=' :: value := by
    rw [List.dropWhile_append_of_pos hneq, List.dropWhile_cons_of_neg (by decide)]
  unfold Argument.ofString
  rw [h]
  split
  case h_1 heq => cases name <;> cases heq
  case h_2 heq =>
    obtain rfl := (List.cons.inj (List.cons.inj heq).2).2
    dsimp only
    rw [htake, hdrop]
    rfl
  case h_3 hlong heq =>
    cases heq
    exact (hlong rfl).elim
  case h_4 hshort => exact (hshort _ _ rfl).elim

theorem ofString_joined (option : Valued) (value : String) :
    Argument.ofString ("--" ++ option.name ++ "=" ++ value) = .long option.name (some value) := by
  have h : ("--" ++ option.name ++ "=" ++ value).toList =
      '-' :: '-' :: (option.name.toList ++ '=' :: value.toList) := by simp
  rw [ofString_long h (by cases option <;> decide), String.ofList_toList, String.ofList_toList]

theorem ofString_name (option : Valued) : Argument.ofString ("--" ++ option.name) = .long option.name none := by
  cases option <;> decide

theorem ofString_plain {value : String} (h : IsPlain value) : Argument.ofString value = .plain value := by
  unfold Argument.ofString
  split
  · rename_i heq
    exact absurd heq (h _ _)
  · rename_i heq
    exact absurd heq (h _ _)
  · rename_i heq
    exact absurd heq (h _ _)
  · rfl

theorem ofName?_name (option : Valued) : Valued.ofName? option.name = some option := by
  cases option <;> decide

/-! ### Reading mentions -/

section
variable {g : Given} {p : Pending} {rest : List String}

theorem read_joined (option : Valued) (value : String) : read g p (("--" ++ option.name ++ "=" ++ value) :: rest) =
    (do read (← (← p.resolve g).assign option value) .nothing rest) := by
  rw [read.eq_def]
  dsimp only
  rw [ofString_joined]
  dsimp only
  rw [ofName?_name]

theorem read_apart (option : Valued) {value : String} (h : IsPlain value) :
    read g p (("--" ++ option.name) :: value :: rest) = (do read (← p.resolve g) (.held option value) rest) := by
  have hvalue : ∀ g, read g (.awaiting option) (value :: rest) = read g (.held option value) rest := by
    intro g
    rw [read.eq_def]
    dsimp only
    rw [ofString_plain h]
  rw [read.eq_def]
  dsimp only
  rw [ofString_name]
  dsimp only
  rw [ofName?_name]
  simp only [hvalue]

theorem read_utc : read g p ("--utc" :: rest) = (do read (← (← p.resolve g).askUtc) .nothing rest) := by
  rw [read.eq_def]
  rfl

end

/-- Reading these arguments settles what was left open, and then goes on with what is given. -/
def Settles (arguments : List String) (next : Given → Except UsageFault Invocation) : Prop :=
  ∀ g p, read g p arguments = (do next (← p.resolve g))

namespace Settles
variable {arguments rest : List String} {next : Given → Except UsageFault Invocation}

theorem nil : Settles [] fun g => .ok (.list g.options) :=
  fun _ _ => rfl

theorem mention {m : Mention} (h : Settles rest next) (hm : m.Written arguments) :
    Settles (arguments ++ rest) fun g => (do next (← m.take g)) := by
  intro g p
  cases hm with
  | joined option value =>
    rw [List.singleton_append, read_joined]
    simp only [h _ Pending.nothing]
    rfl
  | apart option hplain =>
    rw [List.cons_append, List.singleton_append, read_apart option hplain]
    simp only [h _ (Pending.held option _)]
    rfl
  | utc =>
    rw [List.singleton_append, read_utc]
    simp only [h _ Pending.nothing]
    rfl

end Settles

/-! ### Choices -/

/-- What one option asks for. -/
inductive Choice where
  | apiUrl (url : String)
  | format (f : Format)
  | utc
  /-- In milliseconds. -/
  | timeout (n : UInt64)
deriving DecidableEq

namespace Choice

/-- The name of the option. -/
def name : Choice → String
  | .apiUrl _ => "api-url"
  | .format _ => "format"
  | .utc => "utc"
  | .timeout _ => "timeout-ms"

/-- A mention of an option asks for a choice. -/
inductive Asked : Choice → Mention → Prop
  | apiUrl (url : String) : Asked (.apiUrl url) (.valued .apiUrl url)
  | format (f : Format) : Asked (.format f) (.valued .format f.name)
  | utc : Asked .utc .utc
  | timeout {text : String} {n : UInt64} (h : Decimal.Denotes text.toList n.toNat) :
    Asked (.timeout n) (.valued .timeout text)

/-- The arguments that ask for a choice. -/
def Written (c : Choice) (arguments : List String) : Prop :=
  ∃ m, c.Asked m ∧ m.Written arguments

/-- A choice in one argument. -/
def argument : Choice → String
  | .apiUrl url => "--api-url=" ++ url
  | .format f => "--format=" ++ f.name
  | .utc => "--utc"
  | .timeout n => "--timeout-ms=" ++ String.ofList (Decimal.digits n.toNat)

theorem written_argument (c : Choice) : c.Written [c.argument] := by
  cases c with
  | apiUrl url => exact ⟨_, .apiUrl url, .joined .apiUrl url⟩
  | format f => exact ⟨_, .format f, .joined .format f.name⟩
  | utc => exact ⟨_, .utc, .utc⟩
  | timeout n =>
    have h : Decimal.Denotes (String.ofList (Decimal.digits n.toNat)).toList n.toNat := by
      rw [String.toList_ofList]
      exact Decimal.denotes_digits n.toNat
    exact ⟨_, .timeout h, .joined .timeout _⟩

end Choice

namespace Given

/-- The choices that have been made. -/
def choices (g : Given) : List Choice :=
  g.apiUrl.toList.map .apiUrl ++ (g.format.toList.map .format ++ ((if g.utc then [.utc] else []) ++
    g.timeout.toList.map .timeout))

/-- The names of the options that have been given. -/
def names (g : Given) : List String :=
  g.choices.map Choice.name

/-- Makes a choice. -/
def grant (g : Given) : Choice → Given
  | .apiUrl url => { g with apiUrl := some url }
  | .format f => { g with format := some f }
  | .utc => { g with utc := true }
  | .timeout n => { g with timeout := some n }

/-- Makes a choice, unless the option has been given. -/
def choose (g : Given) (c : Choice) : Except UsageFault Given :=
  if c.name ∈ g.names then .error (.repeated c.name) else .ok (g.grant c)

section
variable {g g' : Given} {c : Choice} {choices : List Choice}

theorem mem_choices_iff : c ∈ g.choices ↔ match c with
    | .apiUrl url => g.apiUrl = some url
    | .format f => g.format = some f
    | .utc => g.utc = true
    | .timeout n => g.timeout = some n := by
  cases c <;> simp [choices]

theorem name_mem_names_iff : c.name ∈ g.names ↔ match c with
    | .apiUrl _ => g.apiUrl.isSome
    | .format _ => g.format.isSome
    | .utc => g.utc
    | .timeout _ => g.timeout.isSome := by
  cases c <;> simp [names, choices, Choice.name, Option.isSome_iff_exists]

/-- What is given is known by the choices made. -/
theorem eq_of_choices_perm (h : g.choices.Perm g'.choices) : g = g' := by
  have hmem : ∀ c, c ∈ g.choices ↔ c ∈ g'.choices := fun c => h.mem_iff
  simp only [mem_choices_iff] at hmem
  obtain ⟨apiUrl, format, utc, timeout⟩ := g
  obtain ⟨apiUrl', format', utc', timeout'⟩ := g'
  obtain rfl : apiUrl = apiUrl' := Option.ext fun url => hmem (.apiUrl url)
  obtain rfl : format = format' := Option.ext fun f => hmem (.format f)
  obtain rfl : utc = utc' := Bool.eq_iff_iff.mpr (hmem .utc)
  obtain rfl : timeout = timeout' := Option.ext fun n => hmem (.timeout n)
  rfl

theorem nodup_names (g : Given) : g.names.Nodup := by
  obtain ⟨apiUrl, format, utc, timeout⟩ := g
  cases apiUrl <;> cases format <;> cases utc <;> cases timeout <;> simp [names, choices, Choice.name]

/-- A choice that is made for the first time comes to those that have been made. -/
theorem choices_grant (h : c.name ∉ g.names) : (g.grant c).choices.Perm (c :: g.choices) := by
  rw [name_mem_names_iff] at h
  unfold choices
  cases c with
  | apiUrl url =>
    rw [Option.not_isSome_iff_eq_none.mp h]
    exact .refl _
  | format f =>
    rw [Option.not_isSome_iff_eq_none.mp h]
    exact List.perm_middle
  | utc =>
    rw [Bool.eq_false_iff.mpr h]
    exact (List.Perm.append_left _ List.perm_middle).trans List.perm_middle
  | timeout n =>
    rw [Option.not_isSome_iff_eq_none.mp h]
    simp only [← List.append_assoc]
    exact List.perm_middle

theorem take_of_asked {m : Mention} (h : c.Asked m) : m.take g = g.choose c := by
  by_cases hgiven : c.name ∈ g.names
  · rw [choose, if_pos hgiven]
    rw [name_mem_names_iff] at hgiven
    cases h <;> exact if_pos hgiven
  · rw [choose, if_neg hgiven]
    rw [name_mem_names_iff] at hgiven
    cases h with
    | apiUrl url => exact if_neg hgiven
    | format f => cases f <;> exact if_neg hgiven
    | utc => exact if_neg hgiven
    | timeout htext =>
      refine (if_neg hgiven).trans ?_
      rw [Decimal.word?_eq_some_iff.mpr htext]
      rfl

end
end Given

/-! ### Choices one after the other -/

section
variable {g : Given} {c : Choice} {choices : List Choice}

theorem names_grant (h : c.name ∉ g.names) (choices : List Choice) :
    (choices.map Choice.name ++ (g.grant c).names).Perm ((c :: choices).map Choice.name ++ g.names) :=
  (((Given.choices_grant h).map Choice.name).append_left _).trans List.perm_middle

theorem foldlM_choose_cons (h : c.name ∉ g.names) :
    (c :: choices).foldlM Given.choose g = choices.foldlM Given.choose (g.grant c) := by
  rw [List.foldlM_cons, Given.choose, if_neg h]
  rfl

/-- Choices of different options are all made. -/
theorem foldlM_choose_of_nodup (h : (choices.map Choice.name ++ g.names).Nodup) :
    ∃ g', choices.foldlM Given.choose g = .ok g' ∧ g'.choices.Perm (choices ++ g.choices) := by
  induction choices generalizing g with
  | nil => exact ⟨g, rfl, .refl _⟩
  | cons c choices ih =>
    have hnew : c.name ∉ g.names := fun hmem => (List.nodup_cons.mp h).1 (List.mem_append_right _ hmem)
    obtain ⟨g', hfold, hperm⟩ := ih ((names_grant hnew choices).nodup_iff.mpr h)
    refine ⟨g', (foldlM_choose_cons hnew).trans hfold, hperm.trans ?_⟩
    exact ((Given.choices_grant hnew).append_left _).trans List.perm_middle

/-- Of the options that are mentioned more than once, one is reported. -/
theorem foldlM_choose_of_repeated (h : ¬(choices.map Choice.name ++ g.names).Nodup) :
    ∃ name, 2 ≤ (choices.map Choice.name ++ g.names).count name ∧
      choices.foldlM Given.choose g = .error (.repeated name) := by
  induction choices generalizing g with
  | nil => exact absurd g.nodup_names h
  | cons c choices ih =>
    by_cases hgiven : c.name ∈ g.names
    · refine ⟨c.name, ?_, ?_⟩
      · rw [List.map_cons, List.cons_append, List.count_cons_self]
        exact Nat.succ_le_succ (List.count_pos_iff.mpr (List.mem_append_right _ hgiven))
      · rw [List.foldlM_cons, Given.choose, if_pos hgiven]
        rfl
    · have hperm := names_grant hgiven choices
      obtain ⟨name, hcount, hfold⟩ := ih (fun hnodup => h (hperm.nodup_iff.mp hnodup))
      exact ⟨name, hperm.count_eq name ▸ hcount, (foldlM_choose_cons hgiven).trans hfold⟩

end

/-! ### Lines -/

/-- A choice with arguments that ask for it. -/
structure Spelled where
  choice : Choice
  arguments : List String
  written : choice.Written arguments

namespace Spelled

/-- A choice in one argument. -/
def joined (c : Choice) : Spelled :=
  ⟨c, [c.argument], c.written_argument⟩

/-- The choices of a line. -/
def choices (line : List Spelled) : List Choice :=
  line.map choice

/-- The options that a line names. -/
def names (line : List Spelled) : List String :=
  (choices line).map Choice.name

/-- The line as it is given. -/
def commandLine (line : List Spelled) : List String :=
  line.flatMap arguments

end Spelled

section
variable {rest : List String} {next : Given → Except UsageFault Invocation}

theorem Settles.spelled (h : Settles rest next) (line : List Spelled) :
    Settles (Spelled.commandLine line ++ rest) fun g => (do next (← (Spelled.choices line).foldlM Given.choose g)) := by
  induction line with
  | nil => exact h
  | cons q line ih =>
    obtain ⟨c, arguments, m, hasked, hwritten⟩ := q
    have hsettles := ih.mention hwritten
    simp only [Given.take_of_asked hasked] at hsettles
    show Settles (arguments ++ Spelled.commandLine line ++ rest) fun g =>
      (do next (← (c :: Spelled.choices line).foldlM Given.choose g))
    rw [List.append_assoc]
    simpa only [List.foldlM_cons, bind_assoc] using hsettles

theorem settles_line (line : List Spelled) : Settles (Spelled.commandLine line) fun g => (do
    return .list (← (Spelled.choices line).foldlM Given.choose g).options) := by
  have h := Settles.nil.spelled line
  rwa [List.append_nil] at h

/-- What is read behind a line of different options starts with these. -/
theorem parse_append (h : Settles rest next) {line : List Spelled} (hnodup : (Spelled.names line).Nodup) :
    ∃ g, g.choices.Perm (Spelled.choices line) ∧ Invocation.parse (Spelled.commandLine line ++ rest) = next g := by
  have hnames : ((Spelled.choices line).map Choice.name ++ ({} : Given).names).Nodup :=
    (List.append_nil _).symm ▸ hnodup
  obtain ⟨g, hfold, hchoices⟩ := foldlM_choose_of_nodup hnames
  refine ⟨g, hchoices.trans (List.append_nil _ ▸ .refl _), ?_⟩
  rw [Invocation.parse, h.spelled line]
  show (Spelled.choices line).foldlM Given.choose {} >>= next = next g
  rw [hfold]
  rfl

end

section
variable {line after : List Spelled}

theorem parse_of_perm {g : Given} (hperm : (Spelled.choices line).Perm g.choices) :
    Invocation.parse (Spelled.commandLine line) = .ok (.list g.options) := by
  have hnodup : (Spelled.names line).Nodup := (hperm.map Choice.name).nodup_iff.mpr g.nodup_names
  obtain ⟨g', hchoices, hparse⟩ := parse_append .nil hnodup
  obtain rfl : g' = g := Given.eq_of_choices_perm (hchoices.trans hperm)
  rwa [List.append_nil] at hparse

theorem parse_of_repeated (h : ¬(Spelled.names line).Nodup) : ∃ name, 2 ≤ (Spelled.names line).count name ∧
    Invocation.parse (Spelled.commandLine line) = .error (.repeated name) := by
  have hnothing : (Spelled.choices line).map Choice.name ++ ({} : Given).names = Spelled.names line := List.append_nil _
  obtain ⟨name, hcount, hfold⟩ := foldlM_choose_of_repeated (hnothing.symm ▸ h)
  refine ⟨name, hnothing ▸ hcount, ?_⟩
  rw [Invocation.parse, settles_line line]
  show (do return Invocation.list (← (Spelled.choices line).foldlM Given.choose {}).options) = _
  rw [hfold]
  rfl

theorem parse_of_tooGreat (hnodup : (Spelled.names line).Nodup) (hnew : "timeout-ms" ∉ Spelled.names line)
    {text : String} {n : Nat} {arguments : List String} (htext : Decimal.Denotes text.toList n) (hn : Word.limit ≤ n)
    (hwritten : (Mention.valued .timeout text).Written arguments) (after : List Spelled) :
    Invocation.parse (Spelled.commandLine line ++ (arguments ++ Spelled.commandLine after)) =
      .error (.invalidTimeout text) := by
  obtain ⟨g, hchoices, hparse⟩ := parse_append ((settles_line after).mention hwritten) hnodup
  have hfree : g.timeout.isSome = false := by
    refine Bool.eq_false_iff.mpr fun hgiven => hnew ?_
    exact (hchoices.map Choice.name).mem_iff.mp (Given.name_mem_names_iff (c := .timeout 0).mpr hgiven)
  have htake : (Mention.valued .timeout text).take g = .error (.invalidTimeout text) := by
    rw [Mention.take, Given.assign, Given.has, hfree, Decimal.word?_of_limit_le htext hn]
    rfl
  rw [hparse, htake]
  rfl

end

/-- A command line in which options are given, in one of two ways and in any order, comes to exactly these options and
    to the usual ones for the others. If an option is given twice, the line is refused for one that is. A number of
    milliseconds that is too great for a word is refused as the value of its option. -/
theorem parse_choices (line : List Spelled) :
    (∀ c : Choice, c.Written [c.argument]) ∧
      (∀ g : Given, (Spelled.choices line).Perm g.choices → Invocation.parse (Spelled.commandLine line) =
        .ok (.list { apiUrl := g.apiUrl.getD "http://127.0.0.1:8221", format := g.format.getD .text, utc := g.utc,
                     timeout := g.timeout.getD 5000 })) ∧
      (¬(Spelled.names line).Nodup → ∃ name, 2 ≤ (Spelled.names line).count name ∧
        Invocation.parse (Spelled.commandLine line) = .error (.repeated name)) ∧
      ∀ (text : String) (n : Nat) (arguments : List String) (after : List Spelled),
        Decimal.Denotes text.toList n → 2 ^ 64 ≤ n → (Mention.valued .timeout text).Written arguments →
        (Spelled.names line).Nodup → "timeout-ms" ∉ Spelled.names line →
        Invocation.parse (Spelled.commandLine line ++ (arguments ++ Spelled.commandLine after)) =
          .error (.invalidTimeout text) := by
  refine ⟨Choice.written_argument, fun g => parse_of_perm, parse_of_repeated, ?_⟩
  intro text n arguments after htext hn hwritten hnodup hnew
  exact parse_of_tooGreat hnodup hnew htext hn hwritten after

/-- An address that looks like an option, the greatest number and one more, and a format that is given in both ways. -/
theorem parse_choices_of_limits :
    Invocation.parse ["--timeout-ms=18446744073709551615", "--utc", "--api-url=--a=b"] =
        .ok (.list { apiUrl := "--a=b", format := .text, utc := true, timeout := 18446744073709551615 }) ∧
      Invocation.parse ["--format=html", "--utc", "--format", "text"] = .error (.repeated "format") ∧
      Decimal.Denotes "+018446744073709551616".toList 18446744073709551616 ∧
      Invocation.parse ["--utc", "--timeout-ms=+018446744073709551616", "--format=html"] =
        .error (.invalidTimeout "+018446744073709551616") := by
  have hall := (parse_choices [.joined (.timeout 18446744073709551615), .joined .utc, .joined (.apiUrl "--a=b")]).2.1
    ⟨some "--a=b", none, true, some 18446744073709551615⟩ (by decide)
  have hplain : IsPlain "text" := fun c rest h => absurd (List.cons.inj h).1 (by decide)
  obtain ⟨name, hcount, hrepeated⟩ := (parse_choices [.joined (.format .html), .joined .utc,
    ⟨.format .text, ["--format", "text"], _, .format .text, .apart .format hplain⟩]).2.2.1
    (show ¬["format", "utc", "format"].Nodup by decide)
  have hname : name = "format" := by
    change 2 ≤ ["format", "utc", "format"].count name at hcount
    by_contra hne
    rw [List.count_cons_of_ne (Ne.symm hne), List.count_cons, List.count_cons_of_ne (Ne.symm hne),
      List.count_nil] at hcount
    split at hcount <;> omega
  have htext : Decimal.Denotes "+018446744073709551616".toList 18446744073709551616 :=
    ⟨['+'], "018446744073709551616".toList, rfl, .inr rfl, by decide, List.all_eq_true.mp (by decide), by decide⟩
  have hgreat := (parse_choices [.joined .utc]).2.2.2 _ _ _ [.joined (.format .html)] htext (by decide)
    (.joined .timeout "+018446744073709551616") (by decide) (by decide)
  exact ⟨hall, hname ▸ hrepeated, htext, hgreat⟩

end ClusterConsole.Listing
