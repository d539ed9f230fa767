import Mathlib.Data.List.Basic
import Storefront.Settings.Load

/-! # Where settings come from

The first candidate at which something is decides, even if it cannot be read, and no other candidate
matters. Whatever the settings come from, the environment changes three of them and no other. -/

namespace Storefront

namespace Numeral

open Storefront.Text

/-! ## Whole numbers -/

/-- A text for a whole number: digits, behind a plus sign or not. -/
def SpellsNat (cs : List Char) (n : Nat) : Prop :=
  ∃ digits : List Char, (cs = digits ∨ cs = '+' :: digits) ∧ digits ≠ [] ∧
    (∀ c ∈ digits, c.isDigit = true) ∧ Nat.ofDigitChars 10 digits 0 = n

theorem digitValue_ten (c : Char) :
    digitValue 10 c = if c.isDigit then some (c.toNat - '0'.toNat) else none := by
  have hdigit : c.isDigit = true ↔ 0x30 ≤ c.toNat ∧ c.toNat ≤ 0x39 := by
    simp [Char.isDigit, UInt32.le_iff_toNat_le]
  by_cases h : 0x30 ≤ c.toNat ∧ c.toNat ≤ 0x39
  · have hlt : c.toNat - 0x30 < 10 := by omega
    simp [digitValue, hdigit, h, hlt]
  · rw [if_neg (mt hdigit.mp h), digitValue, Option.filter_eq_none_iff]
    intro v hv
    -- letters come to ten and more
    rw [if_neg (by simpa using h)] at hv
    have hletter : 10 ≤ v := by
      split at hv
      · rename_i hupper
        simp only [Bool.and_eq_true, decide_eq_true_eq] at hupper
        have := Option.some.inj hv
        omega
      · split at hv
        · rename_i hlower
          simp only [Bool.and_eq_true, decide_eq_true_eq] at hlower
          have := Option.some.inj hv
          omega
        · cases hv
    simpa using hletter

/-- How one more digit is added to a number. -/
def addDigit (acc : Option Nat) (c : Char) : Option Nat :=
  acc.bind fun n => (digitValue 10 c).bind fun d => some (n * 10 + d)

theorem foldl_addDigit_none (cs : List Char) : cs.foldl addDigit none = none := by
  induction cs with
  | nil => rfl
  | cons c cs ih => exact ih

theorem foldl_addDigit_eq_some_iff {cs : List Char} {m n : Nat} :
    cs.foldl addDigit (some m) = some n ↔
      (∀ c ∈ cs, c.isDigit = true) ∧ Nat.ofDigitChars 10 cs m = n := by
  induction cs generalizing m with
  | nil => simp [Nat.ofDigitChars_nil]
  | cons c cs ih =>
      rw [List.foldl_cons, addDigit, Option.bind_some, digitValue_ten, List.forall_mem_cons,
        Nat.ofDigitChars_cons]
      by_cases hdigit : c.isDigit = true
      · rw [if_pos hdigit, Option.bind_some, ih, Nat.mul_comm, and_iff_right hdigit]
      · rw [if_neg hdigit, Option.bind_none, foldl_addDigit_none]
        simp [hdigit]

theorem natOfDigits?_eq_some_iff {cs : List Char} {n : Nat} :
    natOfDigits? 10 cs = some n ↔
      cs ≠ [] ∧ (∀ c ∈ cs, c.isDigit = true) ∧ Nat.ofDigitChars 10 cs 0 = n := by
  cases cs with
  | nil => simp [natOfDigits?]
  | cons c cs =>
      rw [and_iff_right (List.cons_ne_nil c cs)]
      exact foldl_addDigit_eq_some_iff

theorem natBelow?_eq_some_iff {limit : Nat} {cs : List Char} {n : Nat} :
    natBelow? limit 10 cs = some n ↔ SpellsNat cs n ∧ n < limit := by
  unfold natBelow?
  rw [Option.filter_eq_some_iff, natOfDigits?_eq_some_iff, decide_eq_true_eq]
  refine and_congr_left' ?_
  split
  · rename_i rest
    constructor
    · exact fun h => ⟨rest, .inr rfl, h⟩
    · rintro ⟨digits, hdigits | hdigits, hne, hall, hvalue⟩
      · exact absurd (hall '+' (hdigits ▸ List.mem_cons_self)) (by decide)
      · obtain rfl := (List.cons.inj hdigits).2
        exact ⟨hne, hall, hvalue⟩
  · rename_i hplus
    constructor
    · exact fun h => ⟨cs, .inl rfl, h⟩
    · rintro ⟨digits, rfl | hdigits, h⟩
      · exact h
      · exact (hplus digits hdigits).elim

end Numeral

namespace Settings

variable {fs : Files} {env : Environment} {userDirectory : Option String}

/-! ## The first file found -/

/-- Something is at a path that can be looked for. -/
def Present (fs : Files) (path : String) : Prop :=
  path ≠ "" ∧ ∃ node, fs.find path = .ok node

/-- The first of some paths at which something is, behind those at which nothing is. -/
structure FirstPresent (fs : Files) (paths before : List String) (path : String) : Prop where
  split : ∃ after, paths = before ++ path :: after
  absent : ∀ other ∈ before, ¬ Present fs other
  present : Present fs path

theorem present_iff (fs : Files) (path : String) :
    Present fs path ↔ (!path.isEmpty && fs.contains path) = true := by
  rw [Present, Bool.and_eq_true, Bool.not_eq_true', Bool.eq_false_iff, Ne, Ne,
    String.isEmpty_iff, Files.contains]
  refine and_congr_right fun _ => ?_
  cases fs.find path <;> simp

theorem chosen?_eq_some_iff {path : String} :
    chosen? fs env userDirectory = some path ↔
      ∃ before, FirstPresent fs (candidates env userDirectory) before path := by
  rw [chosen?, List.find?_eq_some_iff_append]
  constructor
  · rintro ⟨hpresent, before, after, hsplit, habsent⟩
    refine ⟨before, ⟨after, hsplit⟩, fun other hother => ?_, (present_iff fs path).mpr hpresent⟩
    rw [present_iff, Bool.not_eq_true, ← Bool.not_eq_true']
    exact habsent other hother
  · rintro ⟨before, ⟨after, hsplit⟩, habsent, hpresent⟩
    refine ⟨(present_iff fs path).mp hpresent, before, after, hsplit, fun other hother => ?_⟩
    rw [Bool.not_eq_true', ← Bool.not_eq_true, ← present_iff]
    exact habsent other hother

theorem chosen?_eq_none_iff :
    chosen? fs env userDirectory = none ↔
      ∀ path ∈ candidates env userDirectory, ¬ Present fs path := by
  simp only [chosen?, List.find?_eq_none, present_iff]

theorem load_of_firstPresent {before : List String} {path : String}
    (h : FirstPresent fs (candidates env userDirectory) before path) :
    load fs env userDirectory = (ofFile fs path).map (override env) := by
  rw [load, chosen?_eq_some_iff.mpr ⟨before, h⟩]

theorem load_of_absent (h : ∀ path ∈ candidates env userDirectory, ¬ Present fs path) :
    load fs env userDirectory = .ok (override env {}) := by
  rw [load, chosen?_eq_none_iff.mpr h]

theorem ofFile_congr {other : Files} {path : String} (h : other.find path = fs.find path) :
    ofFile other path = ofFile fs path := by
  rw [ofFile, ofFile, Files.read, Files.read, h]

/-- Where paths lead to the same up to the first at which something is, it is the same path. -/
theorem FirstPresent.congr {other : Files} {paths before : List String} {path : String}
    (h : FirstPresent fs paths before path)
    (hsame : ∀ p ∈ before ++ [path], other.find p = fs.find p) :
    FirstPresent other paths before path := by
  have hpresent : ∀ p ∈ before ++ [path], (Present other p ↔ Present fs p) := by
    intro p hp
    rw [Present, Present, hsame p hp]
  exact
    { split := h.split
      absent := fun p hp => mt (hpresent p (List.mem_append_left _ hp)).mp (h.absent p hp)
      present := (hpresent path (by simp)).mpr h.present }

/-! ## What the environment changes -/

/-- A number of milliseconds of 64 bits. -/
def MeansMilliseconds (text : String) (n : Nat) : Prop :=
  Numeral.SpellsNat text.toList n ∧ n < twoTo 64

/-- A positive and finite number of seconds. -/
def MeansSeconds (text : String) (x : Binary64) : Prop :=
  Numeral.binary64? text = some x ∧ x.isFinite = true ∧ x.isPositive = true

/-- What the environment makes of settings: three of them are set to what their variables mean, and
nothing else changes. -/
structure Overrides (env : Environment) (s merged : Settings) : Prop where
  others : merged =
    { s with
      backend := { s.backend with baseUrl := merged.backend.baseUrl }
      suggestion := { s.suggestion with debounce := merged.suggestion.debounce }
      outgoing := { s.outgoing with requestTimeout := merged.outgoing.requestTimeout } }
  baseUrl : ∀ url, env "NEXUS_BACKEND_URL" = some url → merged.backend.baseUrl = url
  baseUrl_absent : env "NEXUS_BACKEND_URL" = none → merged.backend.baseUrl = s.backend.baseUrl
  debounce : ∀ text n, env "NEXUS_DEBOUNCE_MS" = some text → MeansMilliseconds text n →
    merged.suggestion.debounce = n
  debounce_absent : (∀ text n, env "NEXUS_DEBOUNCE_MS" = some text → ¬ MeansMilliseconds text n) →
    merged.suggestion.debounce = s.suggestion.debounce
  requestTimeout : ∀ text x, env "NEXUS_REQUEST_TIMEOUT" = some text → MeansSeconds text x →
    merged.outgoing.requestTimeout = x
  requestTimeout_absent :
    (∀ text x, env "NEXUS_REQUEST_TIMEOUT" = some text → ¬ MeansSeconds text x) →
      merged.outgoing.requestTimeout = s.outgoing.requestTimeout

theorem waitable?_eq_some_iff {text : String} {x : Binary64} :
    waitable? text = some x ↔ MeansSeconds text x := by
  rw [waitable?, Option.filter_eq_some_iff, Bool.and_eq_true, MeansSeconds]

/-- Neither zero nor what is below it, nor what is not finite, nor a word can be waited for. -/
example : ∀ text ∈ ["-1", "0", "NaN", "inf", "soon"], waitable? text = none := by
  decide +kernel

/-- A variable is read as what it means, if it means anything. -/
theorem getD_bind_of_means {α : Type} {var : Option String} {read? : String → Option α}
    {Means : String → α → Prop} (hread : ∀ text x, read? text = some x ↔ Means text x) (old : α) :
    (∀ text x, var = some text → Means text x → (var.bind read?).getD old = x) ∧
      ((∀ text x, var = some text → ¬ Means text x) → (var.bind read?).getD old = old) := by
  constructor
  · rintro text x rfl hmeans
    rw [Option.bind_some, (hread text x).mpr hmeans, Option.getD_some]
  · intro hnone
    have hbind : var.bind read? = none := by
      refine Option.bind_eq_none_iff.mpr fun text htext => ?_
      refine Option.eq_none_iff_forall_ne_some.mpr fun x hx => ?_
      exact hnone text x htext ((hread text x).mp hx)
    rw [hbind, Option.getD_none]

theorem overrides_override (env : Environment) (s : Settings) :
    Overrides env s (override env s) := by
  have hmilliseconds : ∀ (text : String) (n : Nat),
      Numeral.natBelow? (twoTo 64) 10 text.toList = some n ↔ MeansMilliseconds text n :=
    fun _ _ => Numeral.natBelow?_eq_some_iff
  have hseconds : ∀ (text : String) (x : Binary64), waitable? text = some x ↔ MeansSeconds text x :=
    fun _ _ => waitable?_eq_some_iff
  exact
    { others := rfl
      baseUrl := fun url h => by rw [override, h, Option.getD_some]
      baseUrl_absent := fun h => by rw [override, h, Option.getD_none]
      debounce := (getD_bind_of_means hmilliseconds s.suggestion.debounce).1
      debounce_absent := (getD_bind_of_means hmilliseconds s.suggestion.debounce).2
      requestTimeout := (getD_bind_of_means hseconds s.outgoing.requestTimeout).1
      requestTimeout_absent := (getD_bind_of_means hseconds s.outgoing.requestTimeout).2 }

theorem override_override (env : Environment) (s : Settings) :
    override env (override env s) = override env s := by
  have hagain : ∀ {α : Type} (found : Option α) (old : α),
      found.getD (found.getD old) = found.getD old := by
    intro α found old
    cases found <;> rfl
  simp only [override, hagain]

/-! ## Loading -/

/-- Settings are those in the file that a variable names, or in one here, or in the user's, the first
that is there. A failure to read that one is not made up for by another, and what stands in the
others does not matter. If none is there, they are what they are by default. Then the environment
changes three of them, and once is enough. -/
theorem load_reads_first_present (env : Environment) (userDirectory : Option String) :
    candidates env userDirectory =
        (env "NEXUS_SETTINGS_PATH").toList ++ ["settings.yml", "config/settings.yml"] ++
          (userDirectory.map (· ++ "/nexus-search/settings.yml")).toList ∧
      (∀ fs, (∃ before path, FirstPresent fs (candidates env userDirectory) before path) ∨
        ∀ path ∈ candidates env userDirectory, ¬ Present fs path) ∧
      (∀ fs before path, FirstPresent fs (candidates env userDirectory) before path →
        load fs env userDirectory = (ofFile fs path).map (override env) ∧
          (∀ e, ofFile fs path = .error e → load fs env userDirectory = .error e) ∧
          ∀ other : Files, (∀ p ∈ before ++ [path], other.find p = fs.find p) →
            load other env userDirectory = load fs env userDirectory) ∧
      (∀ fs, (∀ path ∈ candidates env userDirectory, ¬ Present fs path) →
        load fs env userDirectory = .ok (override env {})) ∧
      ∀ s, Overrides env s (override env s) ∧ override env (override env s) = override env s := by
  refine ⟨rfl, fun fs => ?_, fun fs before path hfirst => ⟨load_of_firstPresent hfirst, ?_, ?_⟩,
    fun fs => load_of_absent, fun s => ⟨overrides_override env s, override_override env s⟩⟩
  · cases hchosen : chosen? fs env userDirectory with
    | none => exact .inr (chosen?_eq_none_iff.mp hchosen)
    | some path =>
        obtain ⟨before, hfirst⟩ := chosen?_eq_some_iff.mp hchosen
        exact .inl ⟨before, path, hfirst⟩
  · intro e he
    rw [load_of_firstPresent hfirst, he]
    rfl
  · intro other hsame
    rw [load_of_firstPresent hfirst, load_of_firstPresent (hfirst.congr hsame),
      ofFile_congr (hsame path (by simp))]

/-- A directory and a file that may not be read, with a settings file beside them. -/
def shadowed : Files :=
  { nodes := [(["a"], .directory), (["b"], .lockedFile), (["settings.yml"], .file [])] }

/-- The directory where paths start is not there any more. -/
def adrift : Files :=
  { workingDirectory := ["a"] }

theorem not_present_adrift {path : String} (hrelative : path.startsWith "/" = false) :
    ¬ Present adrift path := by
  rintro ⟨hne, node, hnode⟩
  have hwalk : ∀ names, adrift.walk ["a"] names = .error .notFound := by
    intro names
    cases names <;> rfl
  rw [Files.find, if_neg (by rwa [String.isEmpty_iff]), Files.origin,
    if_neg (by rw [hrelative]; exact Bool.false_ne_true)] at hnode
  cases (hwalk _).symm.trans hnode

/-- What a variable says to read instead of the settings file is a failure if it is a directory or may
not be read, and where nothing is the settings are the default ones. -/
theorem load_shadowed_and_adrift :
    let named (path : String) : Environment := fun name =>
      if name = "NEXUS_SETTINGS_PATH" then some path else none
    FirstPresent shadowed (candidates (named "a") none) [] "a" ∧
      load shadowed (named "a") none = .error (.file .isDirectory) ∧
      FirstPresent shadowed (candidates (named "b") none) [] "b" ∧
      load shadowed (named "b") none = .error (.file .denied) ∧
      (∀ path ∈ candidates (fun _ => none) none, ¬ Present adrift path) ∧
      load adrift (fun _ => none) none = .ok {} := by
  intro named
  have hnames : ∀ path ∈ ["a", "b"], Files.namesOf path = [path] := by
    intro path hpath
    rcases List.mem_pair.mp hpath with rfl | rfl <;>
      rw [Files.namesOf, String.splitOn, if_neg (by decide), String.splitOnAux,
        if_neg (by decide), if_neg (by decide), String.splitOnAux, if_pos (by decide)] <;>
      decide
  have hfind : ∀ path ∈ ["a", "b"], shadowed.find path = shadowed.walk [] [path] := by
    intro path hpath
    have hempty : path.isEmpty ≠ true := by
      rcases List.mem_pair.mp hpath with rfl | rfl <;> decide
    have horigin : shadowed.origin path = [] := ite_self []
    rw [Files.find, if_neg hempty, horigin, hnames path hpath]
  have hdirectory : shadowed.find "a" = .ok .directory := hfind "a" (by simp)
  have hlocked : shadowed.find "b" = .ok .lockedFile := hfind "b" (by simp)
  have hfirst : ∀ {path node}, path ≠ "" → shadowed.find path = .ok node →
      FirstPresent shadowed (candidates (named path) none) [] path := fun hne hnode =>
    { split := ⟨["settings.yml", "config/settings.yml"], rfl⟩
      absent := fun other h => absurd h List.not_mem_nil
      present := ⟨hne, _, hnode⟩ }
  have habsent : ∀ path ∈ candidates (fun _ => none) none, ¬ Present adrift path := by
    intro path hpath
    rcases List.mem_pair.mp hpath with rfl | rfl
    · exact not_present_adrift (by simp)
    · exact not_present_adrift (by simp)
  obtain ⟨-, -, hread, -⟩ := load_reads_first_present (named "a") none
  obtain ⟨-, -, hread', -⟩ := load_reads_first_present (named "b") none
  obtain ⟨-, -, -, hdefault, -⟩ := load_reads_first_present (fun _ => none) none
  have ha := hfirst (by decide) hdirectory
  have hb := hfirst (by decide) hlocked
  refine ⟨ha, (hread shadowed [] _ ha).2.1 _ ?_, hb, (hread' shadowed [] _ hb).2.1 _ ?_, habsent,
    hdefault adrift habsent⟩
  · rw [ofFile, Files.read, hdirectory]
  · rw [ofFile, Files.read, hlocked]

end Settings

end Storefront
