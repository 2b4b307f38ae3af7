import InterfaceSync.Manifest
import InterfaceSync.Proofs.Catalogue
import InterfaceSync.Proofs.Trimming
import InterfaceSync.Proofs.Workspace
import Mathlib.Data.List.Induction

/-!
# Loading a manifest

The models of a manifest are entered into a catalogue one after the other, and the first one that cannot be
entered ends everything.  A model is looked at twice: its name must not be blank, and its key must be new.
What the catalogue holds by then are just the models in front of it, so both can be told from the manifest
alone.

* `IsUsable`: no name is blank and no two names have the same key.
* `enterAll_append`: usable models are entered, whatever comes behind them.
* `IsFirstDefect`, `isUsable_or_exists_isFirstDefect`: the models are usable, or there is a first one to
  blame.
* `Lists`: a catalogue that holds exactly the listed models.
* `LoadsExactly`, `load_loadsExactly`: which manifests are loaded, and what is said of the others.
-/

namespace InterfaceSync.Manifest

open Text (IsSpace)

variable {models front : List Model} {m : Model} {c : Catalogue}

/-! ## Models that can be entered -/

theorem isBlankName_eq_true_iff {name : String} : isBlankName name = true ↔ IsSpace name.toList := by
  rw [isBlankName, List.isEmpty_iff]
  constructor
  · intro h
    obtain ⟨before, after, hbefore, hafter, hname⟩ := Text.exists_eq_append_trim name.toList
    rw [h, List.nil_append] at hname
    rw [hname]
    exact fun c hc => (List.mem_append.1 hc).elim (hbefore c) (hafter c)
  · intro h
    have hstart : Text.trimStart name.toList = [] := List.dropWhile_eq_nil_iff.2 h
    rw [Text.trim, hstart]
    rfl

/-- Every name has a character that is not white space, and no two names have the same key. -/
structure IsUsable (models : List Model) : Prop where
  named : ∀ m ∈ models, ∃ c ∈ m.name.toList, Text.isBlank c = false
  distinct : models.Pairwise fun a b => a.key ≠ b.key

theorem not_isSpace_iff {text : List Char} : ¬ IsSpace text ↔ ∃ c ∈ text, Text.isBlank c = false := by
  simp [IsSpace]

theorem isUsable_nil : IsUsable [] := ⟨by simp, .nil⟩

/-- One model more is usable if its name is not blank and its key is new. -/
theorem isUsable_concat_iff : IsUsable (front ++ [m]) ↔
    IsUsable front ∧ ¬ IsSpace m.name.toList ∧ ∀ x ∈ front, x.key ≠ m.key := by
  rw [not_isSpace_iff]
  constructor
  · rintro ⟨named, distinct⟩
    rw [List.forall_mem_append, List.forall_mem_singleton] at named
    rw [List.pairwise_append] at distinct
    exact ⟨⟨named.1, distinct.1⟩, named.2, fun x hx => distinct.2.2 x hx m List.mem_cons_self⟩
  · rintro ⟨⟨named, distinct⟩, hnamed, hfresh⟩
    refine ⟨?_, ?_⟩
    · rw [List.forall_mem_append, List.forall_mem_singleton]
      exact ⟨named, hnamed⟩
    · rw [List.pairwise_append]
      refine ⟨distinct, List.pairwise_singleton _ _, fun x hx y hy => ?_⟩
      rw [List.mem_singleton.1 hy]
      exact hfresh x hx

/-! ## Entering models -/

theorem enterAll_cons_of_blank (h : IsSpace m.name.toList) (rest : List Model) :
    enterAll c (m :: rest) = .error .emptyName := by
  rw [enterAll, if_pos (isBlankName_eq_true_iff.2 h)]

/-- A model whose key is taken is refused under its own name. -/
theorem enterAll_cons_of_taken (hnamed : ¬ IsSpace m.name.toList) (taken : ∃ x ∈ c.models, x.key = m.key)
    (rest : List Model) : enterAll c (m :: rest) = .error (.repeatedModel m.name) := by
  rw [enterAll, if_neg (mt isBlankName_eq_true_iff.1 hnamed)]
  rcases c.register_cases m with ⟨-, hregister⟩ | ⟨free, -⟩
  · rw [hregister]
  · obtain ⟨x, hx, hkey⟩ := taken
    exact absurd hkey (free x hx)

theorem enterAll_cons_of_free (hnamed : ¬ IsSpace m.name.toList) (free : ∀ x ∈ c.models, x.key ≠ m.key) :
    ∃ c' : Catalogue, c'.models.Perm (c.models ++ [m]) ∧
      ∀ rest, enterAll c (m :: rest) = enterAll c' rest := by
  rcases c.register_cases m with ⟨⟨x, hx, hkey⟩, -⟩ | ⟨-, c', hregister, hmodels⟩
  · exact absurd hkey (free x hx)
  · refine ⟨c', ?_, fun rest => ?_⟩
    · rw [hmodels]
      exact (Catalogue.perm_place m c.models).trans (List.perm_append_singleton m c.models).symm
    · rw [enterAll, if_neg (mt isBlankName_eq_true_iff.1 hnamed), hregister]

/-- **Usable models are entered, whatever comes behind them**, and then the catalogue holds them. -/
theorem enterAll_append (h : IsUsable front) :
    ∃ c : Catalogue, c.models.Perm front ∧ ∀ rest, enterAll .empty (front ++ rest) = enterAll c rest := by
  -- The model that is entered last is the one at the end.
  induction front using List.reverseRecOn with
  | nil => exact ⟨.empty, .refl _, fun rest => rfl⟩
  | append_singleton front m ih =>
    obtain ⟨hfront, hnamed, hfresh⟩ := isUsable_concat_iff.1 h
    obtain ⟨c, hperm, henter⟩ := ih hfront
    have free : ∀ x ∈ c.models, x.key ≠ m.key := fun x hx => hfresh x (hperm.mem_iff.1 hx)
    obtain ⟨c', hperm', henter'⟩ := enterAll_cons_of_free hnamed free
    refine ⟨c', hperm'.trans (hperm.append_right [m]), fun rest => ?_⟩
    rw [List.append_assoc, List.singleton_append, henter, henter']

theorem enterAll_of_isUsable (h : IsUsable models) :
    ∃ c : Catalogue, enterAll .empty models = .ok c ∧ c.models.Perm models := by
  obtain ⟨c, hperm, henter⟩ := enterAll_append h
  have hnil := henter []
  rw [List.append_nil] at hnil
  exact ⟨c, hnil, hperm⟩

/-! ## The first model to blame -/

/-- What is wrong with a manifest, and the complaint about it: its first model with a blank name, or with
the key of a model in front of it.  In the second case the complaint has the name as this model spells it. -/
inductive IsFirstDefect (models : List Model) : ManifestDefect → String → Prop where
  | emptyName {front rest : List Model} {m : Model} (cut : models = front ++ m :: rest)
      (usable : IsUsable front) (blank : IsSpace m.name.toList) :
      IsFirstDefect models .emptyName "model with an empty name"
  | repeatedModel {front rest : List Model} {m : Model} (cut : models = front ++ m :: rest)
      (usable : IsUsable front) (named : ¬ IsSpace m.name.toList) (taken : ∃ x ∈ front, x.key = m.key) :
      IsFirstDefect models (.repeatedModel m.name) ("model '" ++ m.name ++ "' is defined more than once")

variable {defect : ManifestDefect} {complaint : String}

theorem IsFirstDefect.message_eq (h : IsFirstDefect models defect complaint) :
    defect.message = complaint := by
  cases h with
  | emptyName => rfl
  | repeatedModel => rfl

theorem IsFirstDefect.enterAll_eq (h : IsFirstDefect models defect complaint) :
    enterAll .empty models = .error defect := by
  cases h with
  | @emptyName front rest m cut usable blank =>
    obtain ⟨c, -, henter⟩ := enterAll_append usable
    rw [cut, henter, enterAll_cons_of_blank blank]
  | @repeatedModel front rest m cut usable named taken =>
    obtain ⟨c, hperm, henter⟩ := enterAll_append usable
    obtain ⟨x, hx, hkey⟩ := taken
    rw [cut, henter, enterAll_cons_of_taken named ⟨x, hperm.mem_iff.2 hx, hkey⟩]

/-- What is to blame in some models still is if more of them follow. -/
theorem IsFirstDefect.append (h : IsFirstDefect front defect complaint) (rest : List Model) :
    IsFirstDefect (front ++ rest) defect complaint := by
  cases h with
  | emptyName cut usable blank =>
    exact .emptyName (by rw [cut, List.append_assoc, List.cons_append]) usable blank
  | repeatedModel cut usable named taken =>
    exact .repeatedModel (by rw [cut, List.append_assoc, List.cons_append]) usable named taken

/-- **The models are usable, or there is a first one to blame.** -/
theorem isUsable_or_exists_isFirstDefect (models : List Model) :
    IsUsable models ∨ ∃ defect complaint, IsFirstDefect models defect complaint := by
  induction models using List.reverseRecOn with
  | nil => exact .inl isUsable_nil
  | append_singleton front m ih =>
    rcases ih with usable | ⟨defect, complaint, hdefect⟩
    · by_cases blank : IsSpace m.name.toList
      · exact .inr ⟨_, _, .emptyName rfl usable blank⟩
      · by_cases taken : ∃ x ∈ front, x.key = m.key
        · exact .inr ⟨_, _, .repeatedModel rfl usable blank taken⟩
        · push Not at taken
          exact .inl (isUsable_concat_iff.2 ⟨usable, blank, taken⟩)
    · exact .inr ⟨defect, complaint, hdefect.append [m]⟩

theorem exists_enterAll_eq_ok_iff : (∃ c, enterAll .empty models = .ok c) ↔ IsUsable models := by
  constructor
  · rintro ⟨c, hc⟩
    rcases isUsable_or_exists_isFirstDefect models with usable | ⟨defect, complaint, hdefect⟩
    · exact usable
    · rw [hdefect.enterAll_eq] at hc
      simp at hc
  · intro usable
    obtain ⟨c, hc, -⟩ := enterAll_of_isUsable usable
    exact ⟨c, hc⟩

theorem enterAll_eq_error_iff : enterAll .empty models = .error defect ↔
    ∃ complaint, IsFirstDefect models defect complaint := by
  constructor
  · intro h
    rcases isUsable_or_exists_isFirstDefect models with usable | ⟨other, complaint, hother⟩
    · obtain ⟨c, hc, -⟩ := enterAll_of_isUsable usable
      rw [hc] at h
      simp at h
    · rw [hother.enterAll_eq] at h
      exact ⟨complaint, Except.error.inj h ▸ hother⟩
  · rintro ⟨complaint, hdefect⟩
    exact hdefect.enterAll_eq

/-! ## Loading -/

/-- The catalogue holds exactly the listed models, each of them as it is listed and under every name with
its key. -/
structure Lists (c : Catalogue) (models : List Model) : Prop where
  perm : c.models.Perm models
  find?_eq_some_iff : ∀ m ∈ models, ∀ name, c.find? name = some m ↔ Naming.snake name = m.key
  find?_eq_none_iff : ∀ name, c.find? name = none ↔ ∀ m ∈ models, m.key ≠ Naming.snake name

theorem lists_of_perm (h : c.models.Perm models) : Lists c models := by
  refine ⟨h, fun m hm name => ?_, fun name => ?_⟩
  · rw [Catalogue.find?_eq_some_iff_of_mem (h.mem_iff.2 hm), eq_comm]
  · rw [Catalogue.find?, List.find?_eq_none]
    simp only [beq_iff_eq, h.mem_iff, ne_eq]

/-- Which lists of models are loaded from the manifest at a path, and what becomes of the others. -/
structure LoadsExactly (path : String) (models : List Model) (result : Except Fault Catalogue) :
    Prop where
  loads_iff : (∃ c, result = .ok c) ↔ IsUsable models
  lists : ∀ c, result = .ok c → Lists c models
  refuses_iff : ∀ fault, result = .error fault ↔ ∃ defect complaint,
    IsFirstDefect models defect complaint ∧ fault = .manifest path defect ∧
      fault.message = "Manifest error in " ++ path ++ ": " ++ complaint

theorem loadsExactly_enterAll (path : String) (models : List Model) :
    LoadsExactly path models ((enterAll .empty models).mapError (Fault.manifest path)) := by
  have hok {c : Catalogue} : (enterAll .empty models).mapError (Fault.manifest path) = .ok c ↔
      enterAll .empty models = .ok c := by
    cases enterAll .empty models with
    | ok c => simp [Except.mapError]
    | error defect => simp [Except.mapError]
  refine ⟨?_, fun c hc => ?_, fun fault => ?_⟩
  · simp only [hok]
    exact exists_enterAll_eq_ok_iff
  · obtain ⟨c', hc', hperm⟩ := enterAll_of_isUsable (exists_enterAll_eq_ok_iff.1 ⟨c, hok.1 hc⟩)
    rw [hok.1 hc] at hc'
    rw [Except.ok.inj hc']
    exact lists_of_perm hperm
  · constructor
    · intro hfault
      obtain ⟨defect, hdefect, rfl⟩ : ∃ defect, enterAll .empty models = .error defect ∧
          fault = .manifest path defect := by
        cases hresult : enterAll .empty models with
        | ok c => simp [hresult, Except.mapError] at hfault
        | error defect => exact ⟨defect, rfl, by simpa [hresult, Except.mapError, eq_comm] using hfault⟩
      obtain ⟨complaint, hfirst⟩ := enterAll_eq_error_iff.1 hdefect
      refine ⟨defect, complaint, hfirst, rfl, ?_⟩
      rw [← hfirst.message_eq]
      rfl
    · rintro ⟨defect, complaint, hfirst, rfl, -⟩
      rw [hfirst.enterAll_eq]
      rfl

variable {w : Workspace} {path text : String}

/-- **A manifest is loaded exactly when its names are usable**, and what is then in the catalogue are the
listed models.  Otherwise the first model that is blank or repeats a key is to blame. -/
theorem load_loadsExactly (hread : w.files.readText w.directory path = .ok text)
    (hmodels : read? path text = some models) :
    LoadsExactly path models (Action.answer (load path) w) := by
  let begun : Workspace := { w with events := w.events ++ [.loadingManifest path] }
  have htext : Action.readText path begun = .ok text begun := by
    rw [Action.readText_apply, hread]
  have hload : load path w = Action.ofExcept (catalogue path text) begun := by
    rw [load, Action.bind_of_ok (Action.report_apply _ w), Action.bind_of_ok htext]
  have hcatalogue : catalogue path text = (enterAll .empty models).mapError (Fault.manifest path) := by
    rw [catalogue, hmodels]
  rw [Action.answer_of_ofExcept hload, hcatalogue]
  exact loadsExactly_enterAll path models

/-- A manifest in which a name is spelled in two ways, and another one is blank. -/
def aliasedText : String :=
  "[[models]]\nname = 'post'\n[[models]]\nname = 'blog_post'\n" ++
    "[[models]]\nname = 'BlogPost'\n[[models]]\nname = ' '\n"

/-- A workspace with a manifest in the root. -/
def withManifest (text : String) : Workspace where
  files := ⟨[(["models.toml"], .file text.toUTF8 FileTree.newFileMode)]⟩
  directory := []
  environment := .empty
  events := []
  output := ""

/-- The second spelling is to blame, and the blank name behind it is not looked at. -/
theorem load_loadsExactly_aliased :
    let w := withManifest aliasedText
    let models : List Model := [.named "post", .named "blog_post", .named "BlogPost", .named " "]
    w.files.readText w.directory "models.toml" = .ok aliasedText ∧
      read? "models.toml" aliasedText = some models ∧
      LoadsExactly "models.toml" models (Action.answer (load "models.toml") w) ∧
      Action.answer (load "models.toml") w = .error (.manifest "models.toml" (.repeatedModel "BlogPost")) := by
  intro w models
  have hread : w.files.readText w.directory "models.toml" = .ok aliasedText := by decide +kernel
  have hmodels : read? "models.toml" aliasedText = some models := by decide +kernel
  have laws := load_loadsExactly hread hmodels
  refine ⟨hread, hmodels, laws, (laws.refuses_iff _).2 ?_⟩
  have usable : IsUsable [.named "post", .named "blog_post"] :=
    ⟨List.forall_mem_cons.2 ⟨⟨'p', by decide, by decide⟩,
      List.forall_mem_singleton.2 ⟨'b', by decide, by decide⟩⟩, by decide +kernel⟩
  have named : ¬ IsSpace (Model.named "BlogPost").name.toList := fun hspace =>
    absurd (hspace 'B' (by decide)) (by decide)
  have taken : ∃ x ∈ [Model.named "post", .named "blog_post"], x.key = (Model.named "BlogPost").key :=
    ⟨.named "blog_post", by decide, by decide +kernel⟩
  exact ⟨_, _, .repeatedModel rfl usable named taken, rfl, rfl⟩

end InterfaceSync.Manifest
