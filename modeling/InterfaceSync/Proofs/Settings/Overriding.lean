import InterfaceSync.Proofs.Settings.Unresolved

/-!
# Paths from the command line

A path that the command line gives takes the place of the one in the settings file.  It does so once the
settings have been loaded, and loading them fills in the references of both paths.  So what the settings
file says about a path that is replaced anyway still matters in one respect: a reference in it that is
unresolved makes the command fail (`resolve_depends_on_overridden`).

In every other respect it does not matter.  Two settings files that agree on all that is not replaced come
to the same, unless they are to be blamed for different variables, or only one of them is to be blamed.

* `Reads`, `answer_resolve`: what the settings of a command come to.
* `AgreeBeside`: settings that agree on all that the command line does not give.
* `Reports`, `resolve_eq_iff`: when two such settings files come to the same.
-/

namespace InterfaceSync.Settings

variable {env : Environment} {o o' : Overrides} {s s' filled filled' : Settings} {w w' u : Workspace}
  {fault : Fault}

/-! ## What the settings of a command come to -/

/-- A command finds settings in the settings file that it is given, or else in the one that belongs to the
working directory, and fills in their references from an environment. -/
structure Reads (o : Overrides) (w : Workspace) (env : Environment) (s : Settings) : Prop where
  exists_file : ∃ path text, o.settingsPath.or (find? w.files w.directory w.directory.path) = some path ∧
    w.files.readText w.directory path = .ok text ∧ parse text = .ok s
  environment : environmentFor w = env

/-- The settings file is searched for, and there is no environment file. -/
theorem reads_of_found {path text : String} (hgiven : o.settingsPath = none)
    (hfound : find? w.files w.directory w.directory.path = some path)
    (hread : w.files.readText w.directory path = .ok text) (hparse : parse text = .ok s)
    (hnone : environmentBytes? w.files w.directory (Path.ancestors w.directory.path) = none) :
    Reads o w w.environment s := by
  refine ⟨⟨path, text, ?_, hread, hparse⟩, ?_⟩
  · rw [hgiven, hfound, Option.none_or]
  · rw [environmentFor, hnone, Option.elim_none]

theorem load_of_found {path : String} (h : find? w.files w.directory w.directory.path = some path) :
    load w = loadFrom path { w with events := w.events ++ [.loadingSettings] } := by
  rw [load, Action.bind_of_ok (Action.report_apply _ w), Action.bind_of_ok (Action.look_apply _ _)]
  simp only [h]

/-- Loads the settings that a command finds. -/
def loadFor (o : Overrides) : Action Settings :=
  match o.settingsPath with
  | some path => loadFrom path
  | none => load

theorem resolve_of_ok (h : loadFor o w = .ok s u) : resolve o w = .ok (s.override o) u := by
  have hput : (loadFor o >>= fun s =>
      (pure (.error (s.override o)) : Action (Except Settings Settings))) w =
        .ok (.error (s.override o)) u := Action.bind_of_ok h _
  exact Action.bind_of_ok (Action.catch_of_ok hput _) _

theorem resolve_of_error (h : loadFor o w = .error fault u) :
    ∃ v, resolve o w = .error fault v := by
  have hput : (loadFor o >>= fun s =>
      (pure (.error (s.override o)) : Action (Except Settings Settings))) w = .error fault u :=
    Action.bind_of_error h _
  refine ⟨{ u with events := u.events ++ [.settingsFailed fault] }, ?_⟩
  refine Action.bind_of_error ((Action.catch_of_error hput _).trans ?_) _
  rfl

theorem answer_resolve_eq (o : Overrides) (w : Workspace) :
    Action.answer (resolve o) w = (Action.answer (loadFor o) w).map (·.override o) := by
  cases h : loadFor o w with
  | ok s u =>
    rw [Action.answer_of_ok h, Action.answer_of_ok (resolve_of_ok h)]
    rfl
  | error fault u =>
    obtain ⟨v, hv⟩ := resolve_of_error h
    rw [Action.answer_of_error h, Action.answer_of_error hv]
    rfl

theorem answer_loadFor (h : Reads o w env s) : Action.answer (loadFor o) w = substitute env s := by
  obtain ⟨⟨path, text, hpath, hread, hparse⟩, rfl⟩ := h
  unfold loadFor
  cases hgiven : o.settingsPath with
  | some given =>
    rw [hgiven, Option.some_or] at hpath
    obtain rfl := Option.some.inj hpath
    exact answer_loadFrom hread hparse
  | none =>
    rw [hgiven, Option.none_or] at hpath
    -- Nothing that loading looks at has to do with the event that is reported first.
    have hanswer := answer_loadFrom (w := { w with events := w.events ++ [.loadingSettings] }) hread hparse
    simp only [Action.answer, load_of_found hpath]
    exact hanswer

/-- **The paths from the command line are put in once all references have been filled in.** -/
theorem answer_resolve (h : Reads o w env s) :
    Action.answer (resolve o) w = (substitute env s).map (·.override o) := by
  rw [answer_resolve_eq, answer_loadFor h]

/-! ## Settings that agree on the rest -/

/-- Settings agree on all that the command line does not give. -/
structure AgreeBeside (o : Overrides) (s s' : Settings) : Prop where
  modelsPath : o.modelsPath = none → s'.modelsPath = s.modelsPath
  documentPath : o.documentPath = none → s'.documentPath = s.documentPath
  exported : s'.exported = s.exported

theorem substitute_eq_ok_iff : substitute env s = .ok filled ↔
    substitutePath env s.modelsPath = .ok filled.modelsPath ∧
      substitutePath env s.documentPath = .ok filled.documentPath ∧ filled.exported = s.exported := by
  unfold substitute
  cases substitutePath env s.modelsPath with
  | error fault => simp
  | ok modelsPath =>
    cases substitutePath env s.documentPath with
    | error fault => simp
    | ok documentPath =>
      cases filled
      simp [eq_comm]

/-- Of what was filled in, nothing is left of the paths that are replaced. -/
theorem AgreeBeside.override_eq (agree : AgreeBeside o s s') (h : substitute env s = .ok filled)
    (h' : substitute env s' = .ok filled') : filled'.override o = filled.override o := by
  obtain ⟨hmodels, hdocument, hexported⟩ := substitute_eq_ok_iff.1 h
  obtain ⟨hmodels', hdocument', hexported'⟩ := substitute_eq_ok_iff.1 h'
  have hmodelsPath : o.modelsPath.getD filled'.modelsPath = o.modelsPath.getD filled.modelsPath := by
    cases hgiven : o.modelsPath with
    | some path => rfl
    | none =>
      rw [agree.modelsPath hgiven, hmodels] at hmodels'
      exact (Except.ok.inj hmodels').symm
  have hdocumentPath :
      o.documentPath.getD filled'.documentPath = o.documentPath.getD filled.documentPath := by
    cases hgiven : o.documentPath with
    | some path => rfl
    | none =>
      rw [agree.documentPath hgiven, hdocument] at hdocument'
      exact (Except.ok.inj hdocument').symm
  have hexportedSame : filled'.exported = filled.exported := by
    rw [hexported', hexported, agree.exported]
  rw [override, override, hmodelsPath, hdocumentPath, hexportedSame]

/-- A variable is reported as not set when the settings are loaded. -/
def Reports (env : Environment) (s : Settings) (name : String) : Prop :=
  ∃ r, IsBlamed env s r ∧ String.ofList r.name = name

theorem substitute_eq_variableNotSet_iff {name : String} :
    substitute env s = .error (.variableNotSet name) ↔ Reports env s name := by
  rw [substitute_eq_error_iff, Reports]
  simp only [Fault.variableNotSet.injEq, eq_comm]

theorem not_reports_of_ok (h : substitute env s = .ok filled) (name : String) :
    ¬ Reports env s name := by
  rw [← substitute_eq_variableNotSet_iff, h]
  simp

theorem exists_reports_of_error (h : substitute env s = .error fault) :
    ∃ name, fault = .variableNotSet name ∧ Reports env s name := by
  obtain ⟨r, hr, rfl⟩ := substitute_eq_error_iff.1 h
  exact ⟨_, rfl, r, hr, rfl⟩

/-! ## When two settings files come to the same -/

theorem map_eq_error_iff {f : Settings → Settings} {x : Except Fault Settings} :
    x.map f = .error fault ↔ x = .error fault := by
  cases x with
  | ok s => simp [Except.map]
  | error e => simp [Except.map]

/-- **Settings that agree on all that the command line does not give come to the same** exactly if they
report the same variables as not set. -/
theorem override_substitute_eq_iff (agree : AgreeBeside o s s') :
    (substitute env s).map (·.override o) = (substitute env s').map (·.override o) ↔
      ∀ name, Reports env s name ↔ Reports env s' name := by
  simp only [← substitute_eq_variableNotSet_iff]
  constructor
  · intro hsame name
    rw [← map_eq_error_iff (f := (·.override o)), hsame, map_eq_error_iff]
  · intro hreports
    cases h : substitute env s with
    | error fault =>
      obtain ⟨name, rfl, -⟩ := exists_reports_of_error h
      rw [(hreports name).1 h]
    | ok filled =>
      cases h' : substitute env s' with
      | error fault =>
        obtain ⟨name, rfl, -⟩ := exists_reports_of_error h'
        rw [(hreports name).2 h'] at h
        simp at h
      | ok filled' => simp only [Except.map, agree.override_eq h h']

/-- **What is replaced matters for its unresolved references only.**  Two commands in the same environment,
with the same paths on the command line and with settings files that agree on all that these paths do not
replace, come to the same exactly if both files report the same variable as not set, or neither file reports
one; and then they come to settings that hold the paths from the command line. -/
theorem resolve_eq_iff (h : Reads o w env s) (h' : Reads o' w' env s')
    (hmodels : o'.modelsPath = o.modelsPath) (hdocument : o'.documentPath = o.documentPath)
    (agree : AgreeBeside o s s') :
    (Action.answer (resolve o) w = Action.answer (resolve o') w' ↔
        ∀ name, Reports env s name ↔ Reports env s' name) ∧
      ((∀ name, ¬ Reports env s name) → ∃ result, Action.answer (resolve o) w = .ok result ∧
        (∀ path ∈ o.modelsPath, result.modelsPath = path) ∧
        ∀ path ∈ o.documentPath, result.documentPath = path) := by
  have hsame : (fun s : Settings => s.override o') = fun s => s.override o := by
    funext s
    rw [override, override, hmodels, hdocument]
  constructor
  · rw [answer_resolve h, answer_resolve h', hsame]
    exact override_substitute_eq_iff agree
  · intro hnone
    cases hs : substitute env s with
    | error fault =>
      obtain ⟨name, -, hname⟩ := exists_reports_of_error hs
      exact absurd hname (hnone name)
    | ok filled =>
      refine ⟨filled.override o, by rw [answer_resolve h, hs]; rfl, ?_, ?_⟩
      · rintro path hpath
        rw [override, Option.mem_def.1 hpath]
        rfl
      · rintro path hpath
        rw [override, Option.mem_def.1 hpath]
        rfl

/-! ## Two files that differ in one path -/

/-- A settings file that says where the document is, and nothing else. -/
def documentText (path : String) : String := "[typesync]\noutput_path = '" ++ path ++ "'\n"

/-- A path for the document from the command line. -/
def documentOverride : Overrides := ⟨none, some "out.d.ts", none⟩

/-- Neither a path without references nor one whose references have values of their own is seen behind the
path from the command line. -/
theorem resolve_eq_iff_out :
    let w := withSettings (documentText "a.d.ts") .empty
    let w' := withSettings (documentText "$\x7bDIR:-b\x7d/c.d.ts") .empty
    let s : Settings := ⟨defaultModelsPath, "a.d.ts", false⟩
    let s' : Settings := ⟨defaultModelsPath, "$\x7bDIR:-b\x7d/c.d.ts", false⟩
    Reads documentOverride w .empty s ∧ Reads documentOverride w' .empty s' ∧
      AgreeBeside documentOverride s s' ∧
      Action.answer (resolve documentOverride) w = Action.answer (resolve documentOverride) w' := by
  intro w w' s s'
  have hread : w.files.readText w.directory "/modelsync.toml" = .ok (documentText "a.d.ts") := by
    decide +kernel
  have hread' : w'.files.readText w'.directory "/modelsync.toml" =
      .ok (documentText "$\x7bDIR:-b\x7d/c.d.ts") := by
    decide +kernel
  have h : Reads documentOverride w .empty s :=
    reads_of_found rfl (by decide +kernel) hread (by decide +kernel) (by decide +kernel)
  have h' : Reads documentOverride w' .empty s' :=
    reads_of_found rfl (by decide +kernel) hread' (by decide +kernel) (by decide +kernel)
  have agree : AgreeBeside documentOverride s s' := ⟨fun _ => rfl, nofun, rfl⟩
  have hfilled : substitute .empty s = .ok s := by decide +kernel
  have hfilled' : substitute .empty s' = .ok ⟨defaultModelsPath, "b/c.d.ts", false⟩ := by decide +kernel
  exact ⟨h, h', agree, (resolve_eq_iff h h' rfl rfl agree).1.2 fun name =>
    iff_of_false (not_reports_of_ok hfilled name) (not_reports_of_ok hfilled' name)⟩

/-- **An unset variable in a path that is replaced makes the command fail.** -/
theorem resolve_depends_on_overridden :
    let w := withSettings (documentText "a.d.ts") .empty
    let w' := withSettings (documentText "$\x7bOUT\x7d") .empty
    parse (documentText "a.d.ts") = .ok ⟨defaultModelsPath, "a.d.ts", false⟩ ∧
      parse (documentText "$\x7bOUT\x7d") = .ok ⟨defaultModelsPath, "$\x7bOUT\x7d", false⟩ ∧
      Action.answer (resolve documentOverride) w = .ok ⟨defaultModelsPath, "out.d.ts", false⟩ ∧
      Action.answer (resolve documentOverride) w' = .error (.variableNotSet "OUT") := by
  decide +kernel

end InterfaceSync.Settings
