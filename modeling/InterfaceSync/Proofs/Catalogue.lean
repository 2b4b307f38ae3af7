import InterfaceSync.Catalogue
import InterfaceSync.Proofs.ByteOrder
import Mathlib.Data.List.Pairwise

/-!
# The catalogue as a map

A catalogue is filled by calls, one model after the other, and a call may fail.  What the catalogue is
then can be told from the calls alone: the first model of every key is in it, and nothing else is.

* `register_cases`: a model is put in its place, or its key is taken.
* `key_ne`, `find?_eq_some_iff_of_mem`: a model has a key of its own, and is found under it.
* `attempt`, `attempts`, `behind`, `answers`: calls one after the other, going on behind those that fail.
* `find?_attempts`, `perm_attempts`: what is in a catalogue behind calls.
* `IsFaithful`: the laws of a map under the keys of the models.
* `isFaithful_behind`: a catalogue that was filled by calls obeys them, and the order of the calls makes
  no difference for models with different keys.
-/

namespace InterfaceSync.Catalogue

/-! ## One model -/

theorem perm_place (m : Model) (list : List Model) : (place m list).Perm (m :: list) := by
  induction list with
  | nil => exact .refl _
  | cons first rest ih =>
    rw [place]
    split
    · exact .refl _
    · exact (ih.cons first).trans (.swap m first rest)

/-- A model with a new key is found under it, and every other key finds what it found. -/
theorem find?_place {m : Model} {list : List Model} (fresh : ∀ x ∈ list, x.key ≠ m.key) (key : String) :
    (place m list).find? (fun x => x.key == key) =
      if m.key == key then some m else list.find? fun x => x.key == key := by
  induction list with
  | nil =>
    rw [place, List.find?_cons, List.find?_nil]
    cases m.key == key <;> rfl
  | cons first rest ih =>
    obtain ⟨hfirst, hrest⟩ := List.forall_mem_cons.1 fresh
    rw [place]
    split
    · rw [List.find?_cons]
      cases m.key == key <;> rfl
    · rw [List.find?_cons, List.find?_cons, ih hrest]
      cases hm : m.key == key
      · rfl
      · -- The key is that of the new model, so the first one does not have it.
        have hne : (first.key == key) = false := by
          rw [← eq_of_beq hm]
          exact beq_eq_false_iff_ne.2 hfirst
        rw [hne]

/-- **A model is put in its place if its key is new, and refused if it is taken.** -/
theorem register_cases (c : Catalogue) (m : Model) :
    ((∃ x ∈ c.models, x.key = m.key) ∧ c.register m = .error (.duplicateModel m.name)) ∨
      ((∀ x ∈ c.models, x.key ≠ m.key) ∧
        ∃ c', c.register m = .ok c' ∧ c'.models = place m c.models) := by
  unfold register
  split
  · rename_i taken
    exact .inl ⟨taken, rfl⟩
  · rename_i free
    exact .inr ⟨fun x hx hkey => free ⟨x, hx, hkey⟩, _, rfl, rfl⟩

theorem get_eq_ok_iff {c : Catalogue} {name : String} {m : Model} :
    c.get name = .ok m ↔ c.find? name = some m := by
  unfold get
  cases c.find? name with
  | none => simp
  | some found => simp

/-- To ask for a model is a failure exactly if there is none under the key of the name. -/
theorem get_eq_error_iff {c : Catalogue} {name : String} {fault : Fault} :
    c.get name = .error fault ↔ fault = .missingModel name ∧ c.find? name = none := by
  unfold get
  cases c.find? name with
  | none => simp [eq_comm]
  | some found => simp

/-- Two models of a catalogue have two keys. -/
theorem key_ne {c : Catalogue} {m other : Model} (hm : m ∈ c.models) (hother : other ∈ c.models)
    (hne : m ≠ other) : m.key ≠ other.key := by
  have hkeys : c.models.Pairwise fun a b => a.key ≠ b.key := c.sorted.imp fun {a b} hlt heq => by
    rw [heq] at hlt
    exact String.lt_irrefl _ hlt
  have hsymm : Std.Symm fun a b : Model => a.key ≠ b.key := ⟨fun _ _ => Ne.symm⟩
  exact hkeys.forall hm hother hne

/-- A model that is found has the key of the name. -/
theorem key_eq_of_find? {c : Catalogue} {name : String} {m : Model} (h : c.find? name = some m) :
    m.key = Naming.snake name :=
  eq_of_beq (List.find?_some (p := fun x : Model => x.key == Naming.snake name) h)

/-- **A model of a catalogue is found under the names that have its key**, and under no others. -/
theorem find?_eq_some_iff_of_mem {c : Catalogue} {m : Model} (hm : m ∈ c.models) {name : String} :
    c.find? name = some m ↔ m.key = Naming.snake name := by
  refine ⟨key_eq_of_find?, fun hkey => ?_⟩
  cases h : c.find? name with
  | none => exact absurd (beq_iff_eq.2 hkey) (List.find?_eq_none.1 h m hm)
  | some found =>
    have hsame : found.key = m.key := (key_eq_of_find? h).trans hkey.symm
    by_contra hne
    exact key_ne (List.mem_of_find?_eq_some h) hm (fun heq => hne (congrArg some heq)) hsame

/-! ## Calls -/

/-- A call on a catalogue that is kept in a variable. -/
def attempt (m : Model) : EStateM Fault Catalogue Unit := do
  match (← getThe Catalogue).register m with
  | .ok c => set c
  | .error fault => throw fault

/-- Calls one after the other, going on behind a call that fails.  The answer to a call is the cause of
its failure, if it fails. -/
def attempts : List Model → Catalogue → List (Option Fault) × Catalogue
  | [], c => ([], c)
  | m :: rest, c =>
    match attempt m c with
    | .ok _ c =>
      let (answers, c) := attempts rest c
      (none :: answers, c)
    | .error fault c =>
      let (answers, c) := attempts rest c
      (some fault :: answers, c)

/-- The catalogue behind calls on the empty one. -/
def behind (calls : List Model) : Catalogue := (attempts calls empty).2

/-- The answers to calls on the empty catalogue. -/
def answers (calls : List Model) : List (Option Fault) := (attempts calls empty).1

/-- The models of the calls that succeed. -/
def accepted (calls : List Model) (answers : List (Option Fault)) : List Model :=
  (calls.zip answers).filterMap fun p => p.2.elim (some p.1) fun _ => none

variable {c : Catalogue} {m : Model} {calls : List Model}

/-- **A call puts the model in its place, or fails and leaves the catalogue as it was.** -/
theorem attempt_cases (m : Model) (c : Catalogue) :
    ((∃ x ∈ c.models, x.key = m.key) ∧ attempt m c = .error (.duplicateModel m.name) c) ∨
      ((∀ x ∈ c.models, x.key ≠ m.key) ∧
        ∃ c', attempt m c = .ok () c' ∧ c'.models = place m c.models) := by
  have hattempt : attempt m c = (match c.register m with
      | .ok c => set c
      | .error fault => throw fault : EStateM Fault Catalogue Unit) c := rfl
  rcases c.register_cases m with ⟨taken, hregister⟩ | ⟨free, c', hregister, hmodels⟩
  · refine .inl ⟨taken, ?_⟩
    rw [hattempt, hregister]
    rfl
  · refine .inr ⟨free, c', ?_, hmodels⟩
    rw [hattempt, hregister]
    rfl

theorem attempts_cons_of_ok {c' : Catalogue} (h : attempt m c = .ok () c') (rest : List Model) :
    attempts (m :: rest) c = (none :: (attempts rest c').1, (attempts rest c').2) := by
  rw [attempts, h]

theorem attempts_cons_of_error {fault : Fault} {c' : Catalogue} (h : attempt m c = .error fault c')
    (rest : List Model) :
    attempts (m :: rest) c = (some fault :: (attempts rest c').1, (attempts rest c').2) := by
  rw [attempts, h]

theorem attempts_append (calls others : List Model) (c : Catalogue) :
    attempts (calls ++ others) c =
      ((attempts calls c).1 ++ (attempts others (attempts calls c).2).1,
        (attempts others (attempts calls c).2).2) := by
  induction calls generalizing c with
  | nil => rfl
  | cons m rest ih =>
    rw [List.cons_append]
    rcases attempt_cases m c with ⟨-, hfailed⟩ | ⟨-, c', hdone, -⟩
    · rw [attempts_cons_of_error hfailed, attempts_cons_of_error hfailed, ih, List.cons_append]
    · rw [attempts_cons_of_ok hdone, attempts_cons_of_ok hdone, ih, List.cons_append]

theorem length_answers_attempts (calls : List Model) (c : Catalogue) :
    (attempts calls c).1.length = calls.length := by
  induction calls generalizing c with
  | nil => rfl
  | cons m rest ih =>
    rcases attempt_cases m c with ⟨-, hfailed⟩ | ⟨-, c', hdone, -⟩
    · rw [attempts_cons_of_error hfailed, List.length_cons, ih, List.length_cons]
    · rw [attempts_cons_of_ok hdone, List.length_cons, ih, List.length_cons]

/-! ## What is in the catalogue -/

/-- **A key finds what it found before the calls, or else the model of the first call with that key.** -/
theorem find?_attempts (calls : List Model) (c : Catalogue) (key : String) :
    (attempts calls c).2.models.find? (fun x => x.key == key) =
      (c.models.find? fun x => x.key == key).or (calls.find? fun x => x.key == key) := by
  induction calls generalizing c with
  | nil => rw [List.find?_nil, Option.or_none]; rfl
  | cons m rest ih =>
    rw [List.find?_cons]
    rcases attempt_cases m c with ⟨⟨x, hx, hkey⟩, hfailed⟩ | ⟨free, c', hdone, hmodels⟩
    · rw [attempts_cons_of_error hfailed, ih]
      cases hm : m.key == key
      · rfl
      · -- The key is taken, so what the catalogue has under it counts in either case.
        have hsome : (c.models.find? fun x => x.key == key).isSome = true := by
          rw [List.find?_isSome]
          exact ⟨x, hx, by rw [hkey, hm]⟩
        obtain ⟨y, hy⟩ := Option.isSome_iff_exists.1 hsome
        rw [hy, Option.some_or, Option.some_or]
    · rw [attempts_cons_of_ok hdone, ih, hmodels, find?_place free]
      cases hm : m.key == key
      · rfl
      · have hnone : (c.models.find? fun x => x.key == key) = none := by
          rw [List.find?_eq_none]
          intro x hx hxkey
          exact free x hx ((eq_of_beq hxkey).trans (eq_of_beq hm).symm)
        rw [hnone]
        rfl

/-- **The models of the calls that succeed come to those that are there.** -/
theorem perm_attempts (calls : List Model) (c : Catalogue) :
    (attempts calls c).2.models.Perm (accepted calls (attempts calls c).1 ++ c.models) := by
  induction calls generalizing c with
  | nil => exact .refl _
  | cons m rest ih =>
    rcases attempt_cases m c with ⟨-, hfailed⟩ | ⟨-, c', hdone, hmodels⟩
    · rw [attempts_cons_of_error hfailed]
      exact ih c
    · rw [attempts_cons_of_ok hdone]
      have hstep := ih c'
      rw [hmodels] at hstep
      exact hstep.trans (((perm_place m c.models).append_left _).trans List.perm_middle)

theorem length_accepted (calls : List Model) (c : Catalogue) :
    (accepted calls (attempts calls c).1).length = (attempts calls c).1.count none := by
  induction calls generalizing c with
  | nil => rfl
  | cons m rest ih =>
    rcases attempt_cases m c with ⟨-, hfailed⟩ | ⟨-, c', hdone, -⟩
    · rw [attempts_cons_of_error hfailed, List.count_cons_of_ne (by simp), ← ih c]
      rfl
    · rw [attempts_cons_of_ok hdone, List.count_cons_self, ← ih c']
      rfl

theorem mem_accepted_iff {answers : List (Option Fault)} {x : Model} :
    x ∈ accepted calls answers ↔ ∃ j : ℕ, calls[j]? = some x ∧ answers[j]? = some none := by
  rw [accepted, List.mem_filterMap]
  constructor
  · rintro ⟨⟨y, answer⟩, hmem, helim⟩
    obtain ⟨j, hj⟩ := List.mem_iff_getElem?.1 hmem
    obtain ⟨hcall, hanswer⟩ := List.getElem?_zip_eq_some.1 hj
    cases answer with
    | none =>
      obtain rfl : y = x := Option.some.inj helim
      exact ⟨j, hcall, hanswer⟩
    | some fault => simp at helim
  · rintro ⟨j, hcall, hanswer⟩
    exact ⟨(x, none), List.mem_iff_getElem?.2 ⟨j, List.getElem?_zip_eq_some.2 ⟨hcall, hanswer⟩⟩, rfl⟩

/-- If no two models have the same key, and none has a key that is taken, all of them are put in. -/
theorem perm_attempts_of_distinct (distinct : calls.Pairwise fun a b => a.key ≠ b.key)
    (free : ∀ m ∈ calls, ∀ x ∈ c.models, x.key ≠ m.key) :
    (attempts calls c).2.models.Perm (calls ++ c.models) := by
  induction calls generalizing c with
  | nil => exact .refl _
  | cons m rest ih =>
    obtain ⟨hm, hrest⟩ := List.forall_mem_cons.1 free
    obtain ⟨hfirst, hdistinct⟩ := List.pairwise_cons.1 distinct
    rcases attempt_cases m c with ⟨⟨x, hx, hkey⟩, -⟩ | ⟨-, c', hdone, hmodels⟩
    · exact absurd hkey (hm x hx)
    · rw [attempts_cons_of_ok hdone]
      have hfree : ∀ m' ∈ rest, ∀ x ∈ c'.models, x.key ≠ m'.key := by
        intro m' hm' x hx
        rw [hmodels, mem_place] at hx
        rcases hx with rfl | hx
        · exact hfirst m' hm'
        · exact hrest m' hm' x hx
      have hstep := ih hdistinct hfree
      rw [hmodels] at hstep
      exact hstep.trans (((perm_place m c.models).append_left _).trans List.perm_middle)

/-! ## One call among others -/

variable {i : ℕ}

theorem length_answers (calls : List Model) : (answers calls).length = calls.length :=
  length_answers_attempts calls empty

theorem answers_append (calls others : List Model) :
    answers (calls ++ others) = answers calls ++ (attempts others (behind calls)).1 := by
  rw [answers, attempts_append]
  rfl

theorem behind_append (calls others : List Model) :
    behind (calls ++ others) = (attempts others (behind calls)).2 := by
  rw [behind, attempts_append]
  rfl

theorem answers_take (calls : List Model) (i : ℕ) :
    answers (calls.take i) = (answers calls).take i := by
  by_cases hi : i ≤ calls.length
  · have hlength : (answers (calls.take i)).length = i := by
      rw [length_answers, List.length_take_of_le hi]
    conv_rhs => rw [← List.take_append_drop i calls, answers_append, List.take_left' hlength]
  · have hlength : (answers calls).length ≤ i := by
      rw [length_answers]
      omega
    rw [List.take_of_length_le (by omega), List.take_of_length_le hlength]

theorem perm_behind (calls : List Model) :
    (behind calls).models.Perm (accepted calls (answers calls)) := by
  have hempty : empty.models = [] := rfl
  have hperm := perm_attempts calls empty
  rwa [hempty, List.append_nil] at hperm

/-- The models that are there in front of a call are those of the calls in front of it that
succeeded. -/
theorem mem_behind_take_iff {x : Model} :
    x ∈ (behind (calls.take i)).models ↔
      ∃ j < i, calls[j]? = some x ∧ (answers calls)[j]? = some none := by
  rw [(perm_behind (calls.take i)).mem_iff, answers_take, mem_accepted_iff]
  constructor
  · rintro ⟨j, hcall, hanswer⟩
    rw [List.getElem?_take] at hcall hanswer
    by_cases hj : j < i
    · rw [if_pos hj] at hcall hanswer
      exact ⟨j, hj, hcall, hanswer⟩
    · rw [if_neg hj] at hcall
      simp at hcall
  · rintro ⟨j, hj, hcall, hanswer⟩
    exact ⟨j, by rw [List.getElem?_take, if_pos hj, hcall],
      by rw [List.getElem?_take, if_pos hj, hanswer]⟩

/-- **A call fails if its key is taken by then, and the catalogue is as it was; else it succeeds.** -/
theorem call_cases (h : calls[i]? = some m) :
    ((∃ x ∈ (behind (calls.take i)).models, x.key = m.key) ∧
        (answers calls)[i]? = some (some (.duplicateModel m.name)) ∧
        behind (calls.take (i + 1)) = behind (calls.take i)) ∨
      ((∀ x ∈ (behind (calls.take i)).models, x.key ≠ m.key) ∧ (answers calls)[i]? = some none) := by
  have hi := (List.getElem?_eq_some_iff.1 h).1
  have hlength : (answers (calls.take i)).length = i := by
    rw [length_answers, List.length_take_of_le (Nat.le_of_lt hi)]
  have htake : calls.take (i + 1) = calls.take i ++ [m] := by
    rw [List.take_add_one, h]
    rfl
  have hanswer : (answers calls)[i]? = (attempts [m] (behind (calls.take i))).1[0]? := by
    have hlater : ((answers calls).take (i + 1))[i]? =
        (answers (calls.take i) ++ (attempts [m] (behind (calls.take i))).1)[i]? := by
      rw [← answers_take, htake, answers_append]
    rw [List.getElem?_take, if_pos (Nat.lt_succ_self i),
      List.getElem?_append_right (Nat.le_of_eq hlength), hlength, Nat.sub_self] at hlater
    exact hlater
  have hbehind : behind (calls.take (i + 1)) = (attempts [m] (behind (calls.take i))).2 := by
    rw [htake, behind_append]
  rcases attempt_cases m (behind (calls.take i)) with ⟨taken, hfailed⟩ | ⟨free, c', hdone, -⟩
  · rw [attempts_cons_of_error hfailed] at hanswer hbehind
    exact .inl ⟨taken, hanswer, hbehind⟩
  · rw [attempts_cons_of_ok hdone] at hanswer
    exact .inr ⟨free, hanswer⟩

/-- **A call succeeds exactly when no call in front of it has succeeded with the same key.** -/
theorem succeeds_iff (h : calls[i]? = some m) : (answers calls)[i]? = some none ↔
    ∀ j < i, ∀ m', calls[j]? = some m' → (answers calls)[j]? = some none → m'.key ≠ m.key := by
  rcases call_cases h with ⟨⟨x, hx, hkey⟩, hfailed, -⟩ | ⟨free, hdone⟩
  · obtain ⟨j, hj, hcall, hsucceeded⟩ := mem_behind_take_iff.1 hx
    rw [hfailed]
    constructor
    · intro hnone
      simp at hnone
    · intro hkeys
      exact absurd hkey (hkeys j hj x hcall hsucceeded)
  · constructor
    · intro _ j hj m' hcall hsucceeded
      exact free m' (mem_behind_take_iff.2 ⟨j, hj, hcall, hsucceeded⟩)
    · intro _
      exact hdone

/-- **A call that fails leaves the catalogue as it was**, and its key is to blame. -/
theorem behind_of_fails {fault : Fault} (h : calls[i]? = some m)
    (hfault : (answers calls)[i]? = some (some fault)) :
    fault = .duplicateModel m.name ∧ behind (calls.take (i + 1)) = behind (calls.take i) := by
  rcases call_cases h with ⟨-, hfailed, hleft⟩ | ⟨-, hdone⟩
  · rw [hfailed, Option.some.injEq, Option.some.injEq] at hfault
    exact ⟨hfault.symm, hleft⟩
  · rw [hdone] at hfault
    simp at hfault

/-! ## The laws of a map -/

/-- What holds behind calls on the empty catalogue. -/
structure IsFaithful (calls : List Model) : Prop where
  length_answers : (answers calls).length = calls.length
  /-- A call succeeds exactly when no call in front of it has succeeded with the same key. -/
  succeeds_iff : ∀ (i : ℕ) (m : Model), calls[i]? = some m →
    ((answers calls)[i]? = some none ↔
      ∀ j < i, ∀ m', calls[j]? = some m' → (answers calls)[j]? = some none → m'.key ≠ m.key)
  /-- A call that fails leaves the catalogue as it was. -/
  fails : ∀ (i : ℕ) (m : Model) (fault : Fault), calls[i]? = some m →
    (answers calls)[i]? = some (some fault) →
      fault = .duplicateModel m.name ∧ behind (calls.take (i + 1)) = behind (calls.take i)
  /-- A name finds the model of the first call with its key, and nothing if there is none. -/
  find?_eq : ∀ name, (behind calls).find? name = calls.find? fun m => m.key == Naming.snake name
  get_eq_ok_iff : ∀ name m, (behind calls).get name = .ok m ↔ (behind calls).find? name = some m
  /-- To ask for a model by a name is a failure exactly if no call has its key. -/
  get_eq_error_iff : ∀ name fault, (behind calls).get name = .error fault ↔
    fault = .missingModel name ∧ ∀ m ∈ calls, m.key ≠ Naming.snake name
  size_eq : (behind calls).size = (answers calls).count none
  /-- Every model of a call that succeeded is listed once, and no other model is. -/
  perm : (behind calls).models.Perm (accepted calls (answers calls))
  ascending : (behind calls).models.Pairwise fun a b => Text.utf8Bytes a.key < Text.utf8Bytes b.key

theorem isFaithful (calls : List Model) : IsFaithful calls := by
  have hfind (name : String) :
      (behind calls).find? name = calls.find? fun m => m.key == Naming.snake name :=
    find?_attempts calls empty (Naming.snake name)
  refine
    { length_answers := length_answers calls
      succeeds_iff := fun i m hcall => succeeds_iff hcall
      fails := fun i m fault hcall hfault => behind_of_fails hcall hfault
      find?_eq := hfind
      get_eq_ok_iff := fun name m => get_eq_ok_iff
      get_eq_error_iff := ?_
      size_eq := ?_
      perm := perm_behind calls
      ascending := ?_ }
  · intro name fault
    rw [get_eq_error_iff, hfind, List.find?_eq_none]
    simp
  · rw [size, (perm_behind calls).length_eq, answers, length_accepted]
  · exact (behind calls).sorted.imp Text.utf8Bytes_lt_iff.2

/-- A catalogue is determined by the models in it. -/
theorem eq_of_perm {c c' : Catalogue} (h : c.models.Perm c'.models) : c = c' := by
  have hmodels : c.models = c'.models :=
    h.eq_of_pairwise (fun a b _ _ hab hba => absurd hba (String.lt_asymm hab)) c.sorted c'.sorted
  cases c
  cases c'
  congr

/-- **A catalogue that was filled by calls is a map under the keys of the models**, and models with
different keys make the same catalogue in every order. -/
theorem isFaithful_behind (calls : List Model) :
    IsFaithful calls ∧
      ∀ others, calls.Perm others → (calls.Pairwise fun a b => a.key ≠ b.key) →
        behind others = behind calls := by
  refine ⟨isFaithful calls, ?_⟩
  intro others hperm distinct
  have hall {list : List Model} (distinct : list.Pairwise fun a b => a.key ≠ b.key) :
      (behind list).models.Perm list := by
    have hempty : empty.models = [] := rfl
    have hput := perm_attempts_of_distinct (c := empty) distinct (by simp [hempty])
    rwa [hempty, List.append_nil] at hput
  have hdistinct := hperm.pairwise distinct fun h => h.symm
  exact eq_of_perm ((hall hdistinct).trans (hperm.symm.trans (hall distinct).symm))

/-- Two models in either order; a third one with a key that is taken is refused, and is found as the
first one. -/
theorem isFaithful_behind_user :
    behind [.named "user", .named "blog_post"] = behind [.named "blog_post", .named "user"] ∧
      (behind [.named "blog_post", .named "user", .named "BlogPost"]).find? "blogPost" =
        some (.named "blog_post") ∧
      behind [.named "blog_post", .named "user", .named "BlogPost"] =
        behind [.named "blog_post", .named "user"] := by
  have distinct : [Model.named "blog_post", .named "user"].Pairwise fun a b => a.key ≠ b.key := by
    decide +kernel
  have refused : (answers [.named "blog_post", .named "user", .named "BlogPost"])[2]? =
      some (some (.duplicateModel "BlogPost")) := by
    decide +kernel
  have laws := (isFaithful_behind [.named "blog_post", .named "user", .named "BlogPost"]).1
  refine ⟨(isFaithful_behind [.named "blog_post", .named "user"]).2 _ (.swap _ _ _) distinct, ?_,
    (laws.fails 2 _ _ rfl refused).2⟩
  rw [laws.find?_eq]
  decide +kernel

end InterfaceSync.Catalogue
