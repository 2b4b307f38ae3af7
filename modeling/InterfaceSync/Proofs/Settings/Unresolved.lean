import InterfaceSync.Settings.Load
import InterfaceSync.Proofs.Settings.Substitution
import InterfaceSync.Proofs.Workspace

/-!
# References that stand for nothing

The references of a path are found in the path as it is written in the settings, before the first of them
is filled in.  So whether they can be filled in does not depend on what became of the text in between: it
fails exactly if one of them is unresolved, and the leftmost of these is to blame.  A reference that comes
in with a value is not among them, and neither is text that only begins like one.

* `Reference.IsUnresolved`, `IsFirstUnresolved`, `IsResolved`: what the references of a text stand for.
* `Reference.substitute_eq_error_iff`, `exists_substitute_eq_ok_iff`: one path.
* `Settings.IsBlamed`, `Settings.substitute_eq_error_iff`: both paths, that of the manifest first.
* `fillPaths_apply`, `loadFrom_apply`: filling in while settings are loaded is the same filling in.
* `FailsOnUnresolved`, `loadFrom_failsOnUnresolved`: loading fails on exactly the unresolved references.
-/

namespace InterfaceSync

namespace Reference

variable {env : Environment} {r : Reference} {text : List Char} {cut : List Piece}

/-! ## One path -/

/-- A reference to a variable without a value that does not give a value itself. -/
def IsUnresolved (env : Environment) (r : Reference) : Prop :=
  r.default = none ∧ env.get? (String.ofList r.name) = none

/-- A reference is among the leftmost ones of a text that do not overlap. -/
def StandsIn (r : Reference) (text : List Char) : Prop :=
  ∃ cut, IsCut text cut ∧ .reference r ∈ cut

/-- The leftmost reference of a text that is unresolved. -/
def IsFirstUnresolved (env : Environment) (text : List Char) (r : Reference) : Prop :=
  ∃ front back, IsCut text (front ++ .reference r :: back) ∧ r.IsUnresolved env ∧
    ∀ r', .reference r' ∈ front → ¬ r'.IsUnresolved env

/-- No reference of a text is unresolved. -/
def IsResolved (env : Environment) (text : List Char) : Prop :=
  ∀ r, StandsIn r text → ¬ r.IsUnresolved env

theorem IsFirstUnresolved.standsIn (h : IsFirstUnresolved env text r) : StandsIn r text := by
  obtain ⟨front, back, isCut, -⟩ := h
  exact ⟨_, isCut, List.mem_append_right front List.mem_cons_self⟩

theorem IsFirstUnresolved.isUnresolved (h : IsFirstUnresolved env text r) : r.IsUnresolved env := by
  obtain ⟨front, back, -, hr, -⟩ := h
  exact hr

theorem standsForNothing_eq_true_iff : standsForNothing env r = true ↔ r.IsUnresolved env := by
  rw [standsForNothing, Option.isNone_iff_eq_none, value?, IsUnresolved]
  cases env.get? (String.ofList r.name) with
  | none => simp
  | some value => simp

theorem standsIn_iff : StandsIn r text ↔ r ∈ all text := by
  rw [(isCut_pieces text).all_eq, mem_references, StandsIn]
  simp only [isCut_iff, exists_eq_left]

theorem find?_references_eq_some_iff :
    (references cut).find? (standsForNothing env) = some r ↔
      ∃ front back, cut = front ++ .reference r :: back ∧ r.IsUnresolved env ∧
        ∀ r', .reference r' ∈ front → ¬ r'.IsUnresolved env := by
  rw [List.find?_eq_some_iff_append, standsForNothing_eq_true_iff]
  constructor
  · rintro ⟨hr, before, behind, hreferences, hbefore⟩
    obtain ⟨front, rest, rfl, rfl, hrest⟩ := List.filterMap_eq_append_iff.1 hreferences
    -- Between the references in front of this one and itself there are characters only.
    obtain ⟨chars, p, back, rfl, hchars, hp, -⟩ := List.filterMap_eq_cons_iff.1 hrest
    obtain rfl : p = .reference r := by
      cases p with
      | char c => simp at hp
      | reference r' => rw [Option.some.inj hp]
    refine ⟨front ++ chars, back, (List.append_assoc ..).symm, hr, fun r' hr' => ?_⟩
    rw [← standsForNothing_eq_true_iff, Bool.not_eq_true]
    rcases List.mem_append.1 hr' with hfront | hamong
    · simpa using hbefore r' (mem_references.2 hfront)
    · simpa using hchars _ hamong
  · rintro ⟨front, back, rfl, hr, hfront⟩
    refine ⟨hr, references front, references back, List.filterMap_append, fun r' hr' => ?_⟩
    have hr' := hfront r' (mem_references.1 hr')
    rwa [← standsForNothing_eq_true_iff, Bool.not_eq_true, ← Bool.not_eq_true'] at hr'

/-- **Filling in fails exactly at the leftmost unresolved reference.** -/
theorem substitute_eq_error_iff :
    substitute env text = .error r ↔ IsFirstUnresolved env text r := by
  rw [substitute, fill_eq_error_iff, (isCut_pieces text).all_eq, find?_references_eq_some_iff,
    IsFirstUnresolved]
  simp only [isCut_iff, eq_comm]

theorem exists_substitute_eq_ok_iff :
    (∃ result, substitute env text = .ok result) ↔ IsResolved env text := by
  rw [substitute, exists_fill_eq_ok_iff]
  refine forall_congr' fun r => ?_
  rw [standsIn_iff, ← standsForNothing_eq_true_iff, Bool.not_eq_true]

theorem exists_isFirstUnresolved_iff :
    (∃ r, IsFirstUnresolved env text r) ↔ ¬ IsResolved env text := by
  rw [← exists_substitute_eq_ok_iff]
  simp only [← substitute_eq_error_iff]
  cases substitute env text with
  | ok result => simp
  | error r => simp

end Reference

namespace Settings

open Reference (IsFirstUnresolved IsResolved IsUnresolved StandsIn)

variable {env : Environment} {s : Settings} {fault : Fault}

/-! ## Both paths -/

/-- The reference that is to blame if the paths cannot be filled in: the leftmost unresolved one in the
path of the manifest, and if there is none, that in the path of the document. -/
def IsBlamed (env : Environment) (s : Settings) (r : Reference) : Prop :=
  IsFirstUnresolved env s.modelsPath.toList r ∨
    (IsResolved env s.modelsPath.toList ∧ IsFirstUnresolved env s.documentPath.toList r)

theorem substitutePath_eq_error_iff {path : String} : substitutePath env path = .error fault ↔
    ∃ r, IsFirstUnresolved env path.toList r ∧ fault = .variableNotSet (String.ofList r.name) := by
  simp only [← Reference.substitute_eq_error_iff]
  unfold substitutePath
  cases Reference.substitute env path.toList with
  | ok text => simp
  | error r => simp [eq_comm]

theorem exists_substitutePath_eq_ok_iff {path : String} :
    (∃ filled, substitutePath env path = .ok filled) ↔ IsResolved env path.toList := by
  rw [← Reference.exists_substitute_eq_ok_iff]
  unfold substitutePath
  cases Reference.substitute env path.toList with
  | ok text => simp
  | error r => simp

/-- **Filling in both paths fails exactly at the reference that is to blame.** -/
theorem substitute_eq_error_iff : substitute env s = .error fault ↔
    ∃ r, IsBlamed env s r ∧ fault = .variableNotSet (String.ofList r.name) := by
  have hresolved : (∃ filled, substitutePath env s.modelsPath = .ok filled) ↔
      IsResolved env s.modelsPath.toList := exists_substitutePath_eq_ok_iff
  unfold substitute IsBlamed
  cases hm : substitutePath env s.modelsPath with
  | error e =>
    have hnot : ¬ IsResolved env s.modelsPath.toList := by
      rw [← hresolved, hm]
      simp
    simp only [hnot, false_and, or_false, ← substitutePath_eq_error_iff, hm, Except.error.injEq]
  | ok filled =>
    rw [hm] at hresolved
    have hall : IsResolved env s.modelsPath.toList := hresolved.1 ⟨filled, rfl⟩
    have hnone : ∀ r, ¬ IsFirstUnresolved env s.modelsPath.toList r := fun r hr =>
      hall r hr.standsIn hr.isUnresolved
    simp only [hnone, hall, true_and, false_or, ← substitutePath_eq_error_iff]
    cases substitutePath env s.documentPath with
    | error e => simp only [Except.error.injEq]
    | ok path => simp only [reduceCtorEq]

theorem exists_isBlamed_iff : (∃ r, IsBlamed env s r) ↔
    ¬ (IsResolved env s.modelsPath.toList ∧ IsResolved env s.documentPath.toList) := by
  unfold IsBlamed
  rw [exists_or, exists_and_left, Reference.exists_isFirstUnresolved_iff,
    Reference.exists_isFirstUnresolved_iff]
  by_cases hmodels : IsResolved env s.modelsPath.toList
  · simp [hmodels]
  · simp [hmodels]

theorem substitute_eq_self (hmodels : ∀ r, ¬ StandsIn r s.modelsPath.toList)
    (hdocument : ∀ r, ¬ StandsIn r s.documentPath.toList) : substitute env s = .ok s := by
  have hpath {path : String} (h : ∀ r, ¬ StandsIn r path.toList) :
      substitutePath env path = .ok path := by
    have hall : Reference.all path.toList = [] :=
      List.eq_nil_iff_forall_not_mem.2 fun r hr => h r (Reference.standsIn_iff.2 hr)
    rw [substitutePath, Reference.substitute, hall, Reference.fill]
    simp only [String.ofList_toList]
  rw [substitute, hpath hmodels, hpath hdocument]

/-! ## While settings are loaded -/

variable {w : Workspace} {path text : String}

/-- The environment once the environment file that belongs to the working directory has been read. -/
def environmentFor (w : Workspace) : Environment :=
  (environmentBytes? w.files w.directory (Path.ancestors w.directory.path)).elim w.environment
    (Environment.File.load w.environment)

theorem loadEnvironment_apply (w : Workspace) :
    loadEnvironment w = .ok () { w with environment := environmentFor w } := by
  show EStateM.Result.ok () _ = _
  unfold environmentFor
  beta_reduce
  cases environmentBytes? w.files w.directory (Path.ancestors w.directory.path) with
  | none => rfl
  | some bytes => rfl

/-- A path is filled in with what the environment holds, and only events are new. -/
theorem fillPath_apply (path : String) (w : Workspace) :
    ∃ events, fillPath path w =
      Action.ofExcept (substitutePath w.environment path) { w with events := events } := by
  have hget : (get : Action Workspace) w = .ok w w := rfl
  rw [fillPath, Action.bind_of_ok hget, Action.bind_of_ok (Action.forM_report_apply _ w)]
  exact ⟨_, rfl⟩

theorem fillPaths_apply (s : Settings) (w : Workspace) :
    ∃ events, fillPaths s w =
      Action.ofExcept (substitute w.environment s) { w with events := events } := by
  obtain ⟨events, hmodels⟩ := fillPath_apply s.modelsPath w
  obtain ⟨more, hdocument⟩ := fillPath_apply s.documentPath { w with events := events }
  rw [fillPaths, substitute]
  cases hm : substitutePath w.environment s.modelsPath with
  | error fault =>
    rw [hm] at hmodels
    exact ⟨events, Action.bind_of_error hmodels _⟩
  | ok modelsPath =>
    rw [hm] at hmodels
    refine ⟨more, ?_⟩
    rw [Action.bind_of_ok hmodels]
    cases hd : substitutePath w.environment s.documentPath with
    | error fault =>
      rw [hd] at hdocument
      exact Action.bind_of_error hdocument _
    | ok documentPath =>
      rw [hd] at hdocument
      exact Action.bind_of_ok hdocument _

/-- **Settings that can be read are loaded with their paths filled in.** -/
theorem loadFrom_apply (hread : w.files.readText w.directory path = .ok text)
    (hparse : parse text = .ok s) :
    ∃ events, loadFrom path w = Action.ofExcept (substitute (environmentFor w) s)
      { w with environment := environmentFor w, events := events } := by
  let found : Workspace := { w with events := w.events ++ [.settingsFound path] }
  let ready : Workspace := { found with environment := environmentFor w }
  have hload : loadEnvironment found = .ok () ready := loadEnvironment_apply found
  have hfile : readFile path ready = .ok text ready := by
    rw [readFile, Action.bind_of_ok (Action.look_apply _ ready), hread]
    rfl
  have hsettings : readSettings text ready = .ok s ready := by
    rw [readSettings, hparse]
    rfl
  obtain ⟨events, hfill⟩ := fillPaths_apply s ready
  rw [loadFrom, Action.bind_of_ok (Action.report_apply _ w), Action.bind_of_ok hload,
    Action.bind_of_ok hfile, Action.bind_of_ok hsettings]
  cases hs : substitute (environmentFor w) s with
  | error fault =>
    rw [show ready.environment = environmentFor w from rfl, hs] at hfill
    exact ⟨events, Action.bind_of_error hfill _⟩
  | ok filled =>
    rw [show ready.environment = environmentFor w from rfl, hs] at hfill
    exact ⟨events ++ [.settingsLoaded], Action.bind_of_ok hfill _⟩

theorem answer_loadFrom (hread : w.files.readText w.directory path = .ok text)
    (hparse : parse text = .ok s) :
    Action.answer (loadFrom path) w = substitute (environmentFor w) s := by
  obtain ⟨events, hload⟩ := loadFrom_apply hread hparse
  exact Action.answer_of_ofExcept hload

theorem answer_fillPaths (s : Settings) (w : Workspace) :
    Action.answer (fillPaths s) w = substitute w.environment s := by
  obtain ⟨events, hfill⟩ := fillPaths_apply s w
  exact Action.answer_of_ofExcept hfill

/-! ## Exactly the unresolved references -/

/-- When filling in the references of settings fails, and with which failure. -/
structure FailsOnUnresolved (env : Environment) (s : Settings) (result : Except Fault Settings) :
    Prop where
  /-- It fails exactly if a reference in one of the paths is unresolved. -/
  fails_iff : (∃ fault, result = .error fault) ↔ ∃ r : Reference, r.IsUnresolved env ∧
    (r.StandsIn s.modelsPath.toList ∨ r.StandsIn s.documentPath.toList)
  /-- The failure names the variable of the reference that is to blame. -/
  eq_error_iff : ∀ fault, result = .error fault ↔
    ∃ r, IsBlamed env s r ∧ fault = .variableNotSet (String.ofList r.name)
  /-- Paths in which no reference is complete are taken as they are. -/
  eq_ok : (∀ r : Reference, ¬ r.StandsIn s.modelsPath.toList) →
    (∀ r : Reference, ¬ r.StandsIn s.documentPath.toList) → result = .ok s

theorem failsOnUnresolved_substitute (env : Environment) (s : Settings) :
    FailsOnUnresolved env s (substitute env s) := by
  refine
    { fails_iff := ?_
      eq_error_iff := fun fault => substitute_eq_error_iff
      eq_ok := substitute_eq_self }
  have hblamed : (∃ fault, substitute env s = .error fault) ↔ ∃ r, IsBlamed env s r := by
    simp only [substitute_eq_error_iff]
    constructor
    · rintro ⟨fault, r, hr, -⟩
      exact ⟨r, hr⟩
    · rintro ⟨r, hr⟩
      exact ⟨_, r, hr, rfl⟩
  rw [hblamed, exists_isBlamed_iff, IsResolved, IsResolved, ← forall_and]
  push Not
  refine exists_congr fun r => ?_
  tauto

/-- **Loading settings fails on exactly the unresolved references** of the two paths, and blames the
leftmost one; so does filling in their paths in any environment. -/
theorem loadFrom_failsOnUnresolved (hread : w.files.readText w.directory path = .ok text)
    (hparse : parse text = .ok s) :
    FailsOnUnresolved (environmentFor w) s (Action.answer (loadFrom path) w) ∧
      ∀ u : Workspace, FailsOnUnresolved u.environment s (Action.answer (fillPaths s) u) := by
  refine ⟨?_, fun u => ?_⟩
  · rw [answer_loadFrom hread hparse]
    exact failsOnUnresolved_substitute _ s
  · rw [answer_fillPaths]
    exact failsOnUnresolved_substitute _ s

/-- A settings file with a reference that has a value of its own, and behind it one that has none. -/
def unsetText : String :=
  "[general]\nmodels_path = '$\x7b:x\x7d$\x7bDIR:-config\x7d/models.toml'\n" ++
    "[typesync]\noutput_path = '$\x7bNAME\x7d/$\x7bOUT\x7d'\n"

/-- A workspace with a text in its settings file. -/
def withSettings (text : String) (environment : Environment) : Workspace where
  files := ⟨[([fileName], .file text.toUTF8 FileTree.newFileMode)]⟩
  directory := []
  environment := environment
  events := []
  output := ""

/-- Of the two references in the path of the document, the first one has a value and the second one has
none. -/
theorem loadFrom_failsOnUnresolved_out :
    let w := withSettings unsetText ⟨[("NAME", "app")]⟩
    let s : Settings :=
      ⟨"$\x7b:x\x7d$\x7bDIR:-config\x7d/models.toml", "$\x7bNAME\x7d/$\x7bOUT\x7d", false⟩
    w.files.readText w.directory fileName = .ok unsetText ∧ parse unsetText = .ok s ∧
      FailsOnUnresolved (environmentFor w) s (Action.answer (loadFrom fileName) w) ∧
      (∀ u : Workspace, FailsOnUnresolved u.environment s (Action.answer (fillPaths s) u)) ∧
      Action.answer (loadFrom fileName) w = .error (.variableNotSet "OUT") := by
  intro w s
  have hread : w.files.readText w.directory fileName = .ok unsetText := by decide +kernel
  have hparse : parse unsetText = .ok s := by decide +kernel
  obtain ⟨hload, hfill⟩ := loadFrom_failsOnUnresolved hread hparse
  exact ⟨hread, hparse, hload, hfill, by decide +kernel⟩

end Settings
end InterfaceSync
