import InterfaceSync.Proofs.Reconcile.Independence
import Mathlib.Logic.Relation

/-!
# Reconciliation with a model that asks for more

A validation or an association more, or a mark that says that an association is required, can only add
to the required fields, whatever else is said about the same association.  And where the scan stands in
the document does not depend on what is required.  So the two scans of a document go hand in hand: they
differ in the question marks of the block alone, and a question mark that is missing for the first model
is missing for the second one as well.

* `Model.AsksMore`, `Model.AsksMore.required_subset`: one thing more that a model asks for.
* `settledBody_of_subset`: one line.
* `IsStricter`, `run_isStricter`: a whole document, by the required fields.
* `run_isStricter_of_asksMore`: a whole document, by the models.
-/

namespace InterfaceSync

open Text

/-! ## One thing more -/

namespace Model

/-- A model asks for one thing more than another one: a validation or an association is put in anywhere,
or an association is marked as not optional or as required. -/
inductive AsksMore : Model → Model → Prop where
  | validation {m : Model} {front back : List Validation} (v : Validation)
      (cut : m.validations = front ++ back) :
      AsksMore m { m with validations := front ++ v :: back }
  | association {m : Model} {front back : List Association} (a : Association)
      (cut : m.associations = front ++ back) :
      AsksMore m { m with associations := front ++ a :: back }
  | notOptional {m : Model} {front back : List Association} {a : Association}
      (cut : m.associations = front ++ a :: back) :
      AsksMore m { m with associations := front ++ { a with optional := some false } :: back }
  | markedRequired {m : Model} {front back : List Association} {a : Association}
      (cut : m.associations = front ++ a :: back) :
      AsksMore m { m with associations := front ++ { a with required := some true } :: back }

end Model

/-- An association that asks for at least as much as another one of the same name and kind. -/
structure Association.AsksAsMuch (a b : Association) : Prop where
  name_eq : b.name = a.name
  kind_eq : b.kind = a.kind
  marked : a.isMarkedRequired = true → b.isMarkedRequired = true

theorem Association.AsksAsMuch.refl (a : Association) : a.AsksAsMuch a := ⟨rfl, rfl, id⟩

/-- Where one association is put in place of another one, every other one is kept. -/
theorem Association.AsksAsMuch.exists_mem_replace {a b : Association} (h : a.AsksAsMuch b)
    (front back : List Association) :
    ∀ c ∈ front ++ a :: back, ∃ d ∈ front ++ b :: back, c.AsksAsMuch d := by
  intro c hc
  rw [List.mem_append, List.mem_cons] at hc
  rcases hc with hc | rfl | hc
  · exact ⟨c, List.mem_append_left _ hc, .refl c⟩
  · exact ⟨b, List.mem_append_right _ List.mem_cons_self, h⟩
  · exact ⟨c, List.mem_append_right _ (List.mem_cons_of_mem _ hc), .refl c⟩

namespace Model

variable {m m' : Model}

/-- A model requires at least as much as another one if its validations are among its own and each of its
associations is matched by one that asks for at least as much. -/
theorem required_subset_of_asksAsMuch (validations : m.validations ⊆ m'.validations)
    (associations : ∀ a ∈ m.associations, ∃ b ∈ m'.associations, a.AsksAsMuch b) :
    m.required ⊆ m'.required := by
  intro field hfield
  rw [mem_required] at hfield ⊢
  rcases hfield with ⟨v, hv, hpresence, hfield⟩ | ⟨a, ha, hbelongs, hmarked, hfield⟩
  · exact .inl ⟨v, validations hv, hpresence, hfield⟩
  · obtain ⟨b, hb, h⟩ := associations a ha
    refine .inr ⟨b, hb, h.kind_eq.trans hbelongs, h.marked hmarked, ?_⟩
    rwa [h.name_eq]

/-- **What a model asks for more does not take anything back.** -/
theorem AsksMore.required_subset (h : AsksMore m m') : m.required ⊆ m'.required := by
  have same : ∀ a ∈ m.associations, ∃ b ∈ m.associations, a.AsksAsMuch b :=
    fun a ha => ⟨a, ha, .refl a⟩
  cases h with
  | @validation front back v cut =>
    refine required_subset_of_asksAsMuch ?_ same
    rw [cut]
    exact ((List.sublist_cons_self v back).append_left front).subset
  | @association front back a cut =>
    refine required_subset_of_asksAsMuch (List.Subset.refl _) fun b hb => ⟨b, ?_, .refl b⟩
    rw [cut] at hb
    exact ((List.sublist_cons_self a back).append_left front).subset hb
  | @notOptional front back a cut =>
    have hmark : a.AsksAsMuch { a with optional := some false } :=
      ⟨rfl, rfl, fun _ => by simp [Association.isMarkedRequired]⟩
    refine required_subset_of_asksAsMuch (List.Subset.refl _) ?_
    rw [cut]
    exact hmark.exists_mem_replace front back
  | @markedRequired front back a cut =>
    have hmark : a.AsksAsMuch { a with required := some true } :=
      ⟨rfl, rfl, fun _ => by simp [Association.isMarkedRequired]⟩
    refine required_subset_of_asksAsMuch (List.Subset.refl _) ?_
    rw [cut]
    exact hmark.exists_mem_replace front back

theorem AsksMore.name_eq (h : AsksMore m m') : m'.name = m.name := by
  cases h <;> rfl

end Model

namespace Reconcile

/-! ## One line -/

variable {required more : List String} {body : List Char} {before after : Phase}

/-- A line without its question mark is left as it is by whoever requires more. -/
theorem settledBody_of_subset (h : required ⊆ more) {l : FieldLine}
    (hread : FieldLine.read? (settledBody required before after body) = some l)
    (hunmarked : l.optional = false) :
    settledBody more before after body = settledBody required before after body := by
  unfold settledBody at hread ⊢
  by_cases hdeclares : before.declaresBetween after = true
  · rw [if_pos hdeclares] at hread ⊢
    rw [if_pos hdeclares]
    cases hbody : FieldLine.read? body with
    | none => rw [FieldLine.settle_of_read?_eq_none hbody, FieldLine.settle_of_read?_eq_none hbody]
    | some d =>
      rw [FieldLine.read?_settle hbody, Option.some.injEq] at hread
      have hrequired : required.contains (String.ofList d.name) = true := by
        rw [← hread] at hunmarked
        simpa using hunmarked
      have hmore : more.contains (String.ofList d.name) = true := by
        rw [List.contains_iff_mem] at hrequired ⊢
        exact h hrequired
      rw [FieldLine.settle_of_read? hbody, FieldLine.settle_of_read? hbody, hrequired, hmore]
  · rw [if_neg hdeclares, if_neg hdeclares]

/-! ## A whole document -/

/-- A report that is stricter than another one on the same text: the two found the same block, and lines
differ in their question marks alone, in the target alone, and only where the other report left one. -/
structure IsStricter (interfaceName text : List Char) (report stricter : Report) : Prop where
  blockFound_eq : stricter.blockFound = report.blockFound
  unterminated_eq : stricter.unterminated = report.unterminated
  map_bare_eq : (lines stricter.text).map Line.bare = (lines report.text).map Line.bare
  outside : ∀ i, ¬ InTarget interfaceName (lines text) i →
    (lines stricter.text)[i]? = (lines report.text)[i]?
  unmarked : ∀ (i : ℕ) (l : Line) (f : FieldLine), (lines report.text)[i]? = some l →
    f.IsDeclared → f.text = l.body → f.optional = false → (lines stricter.text)[i]? = some l

/-- Where the scan of a document ends does not depend on what is required. -/
theorem snd_scan_eq (modelName : String) (required more : List String) (text : List Char) :
    (scan modelName more text).2 = (scan modelName required text).2 := by
  rw [snd_scan, snd_scan]

/-- **Who requires more leaves no question mark that was not left before.** -/
theorem run_isStricter (h : required ⊆ more) (modelName : String) (text : List Char) :
    IsStricter (Naming.pascal modelName).toList text (run modelName required text)
      (run modelName more text) where
  blockFound_eq := by
    rw [blockFound_run, blockFound_run, snd_scan_eq modelName required more]
  unterminated_eq := by
    rw [unterminated_run, unterminated_run, snd_scan_eq modelName required more]
  map_bare_eq := by
    rw [map_bare_lines_text_run, map_bare_lines_text_run]
  outside i hi := by
    rw [getElem?_lines_run_of_not_inTarget modelName more hi,
      getElem?_lines_run_of_not_inTarget modelName required hi]
  unmarked i l f hl hf htext hunmarked := by
    rw [lines_text_run, scan, getElem?_settleLines] at hl ⊢
    obtain ⟨before, hbefore, rfl⟩ := Option.map_eq_some_iff.1 hl
    have hread : FieldLine.read? (settledBody required _ _ before.body) = some f :=
      FieldLine.read?_eq_some_iff.2 ⟨hf, htext⟩
    rw [hbefore, Option.map_some, settledBody_of_subset h hread hunmarked]

/-- **A model that asks for more is stricter with every document.**  It takes no required field back, it
finds the same block, and it makes no field optional that was not optional. -/
theorem run_isStricter_of_asksMore {m m' : Model} (h : Relation.ReflTransGen Model.AsksMore m m')
    (text : List Char) :
    m.required ⊆ m'.required ∧
      IsStricter m.interfaceName.toList text (run m.name m.required text)
        (run m'.name m'.required text) := by
  have laws : m.required ⊆ m'.required ∧ m'.name = m.name := by
    induction h with
    | refl => exact ⟨List.Subset.refl _, rfl⟩
    | tail _ one ih => exact ⟨List.Subset.trans ih.1 one.required_subset, one.name_eq.trans ih.2⟩
  obtain ⟨hsubset, hname⟩ := laws
  rw [hname]
  exact ⟨hsubset, run_isStricter hsubset m.name text⟩

/-- Two things more, one of them against a mark that is there: the field that was required stays so. -/
theorem run_isStricter_post :
    let author : Association := ⟨"author", .belongsTo, some true, none⟩
    let m : Model := ⟨"post", [], [⟨.presence, ["body"]⟩], [author]⟩
    let m' : Model := ⟨"post", [], [⟨.length, ["body"]⟩, ⟨.presence, ["body"]⟩],
      [{ author with optional := some false }]⟩
    let text := "interface Post \x7b\n  body?: string;\n  author?: Author;\n\x7d\n".toList
    Relation.ReflTransGen Model.AsksMore m m' ∧ m.required ⊆ m'.required ∧
      IsStricter m.interfaceName.toList text (run m.name m.required text)
        (run m'.name m'.required text) ∧
      (run m.name m.required text).text =
        "interface Post \x7b\n  body: string;\n  author?: Author;\n\x7d\n".toList ∧
      (run m'.name m'.required text).text =
        "interface Post \x7b\n  body: string;\n  author: Author;\n\x7d\n".toList := by
  intro author m m' text
  let marked : Model := { m with associations := [{ author with optional := some false }] }
  have mark : Model.AsksMore m marked := @Model.AsksMore.notOptional m [] [] author rfl
  have insert : Model.AsksMore marked m' :=
    @Model.AsksMore.validation marked [] marked.validations ⟨.length, ["body"]⟩ rfl
  have steps : Relation.ReflTransGen Model.AsksMore m m' :=
    (Relation.ReflTransGen.single mark).tail insert
  have laws := run_isStricter_of_asksMore steps text
  exact ⟨steps, laws.1, laws.2, by decide +kernel, by decide +kernel⟩

end Reconcile
end InterfaceSync
