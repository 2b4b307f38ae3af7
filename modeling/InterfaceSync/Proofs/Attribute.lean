import InterfaceSync.Proofs.PlainName
import InterfaceSync.Proofs.Trimming
import Mathlib.Data.List.Forall2

/-!
# The form of an attribute argument

An argument is a name, perhaps a kind with or without options in braces, and perhaps the mark of an index,
with white space around it or not.  An argument is read exactly if it is of this form.  The form does not
tell one thing: in `title:index` the word behind the colon may be a kind or a mark, and it is read as the
kind.  So the options and a mark behind a kind change nothing, and a mark behind a bare name does.

* `Written`, `Written.StandsIn`, `IsArgument`: the parts of an argument, and an argument made of them.
* `readKind?_eq_some_iff`, `read?_eq_some_iff`: what is read of an argument.
* `read?_past_kind`: what stands behind a kind is read past.
* `readAll_eq_ok_iff`, `readAll_eq_error_iff`: all arguments are read, or the first one that cannot be
  read is the failure.
* `readAll_isArgument`: the same, said of the form of the arguments.
-/

namespace InterfaceSync.Attribute

open Text

/-! ## The form -/

/-- The mark of an index. -/
inductive IndexMark where
  | index
  | uniq

/-- The word that a mark is written with. -/
def IndexMark.word : IndexMark → List Char
  | index => "index".toList
  | uniq => "uniq".toList

/-- A kind and the options that belong to it. -/
structure Kind where
  name : List Char
  options : Option (List Char)

/-- An argument in its parts. -/
structure Written where
  name : List Char
  kind : Option Kind
  mark : Option IndexMark

/-- Options as they are written. -/
def optionsText : Option (List Char) → List Char
  | none => []
  | some options => '\x7b' :: (options ++ ['\x7d'])

/-- A kind as it is written. -/
def kindText : Option Kind → List Char
  | none => []
  | some kind => ':' :: (kind.name ++ optionsText kind.options)

/-- A mark as it is written. -/
def markText : Option IndexMark → List Char
  | none => []
  | some mark => ':' :: mark.word

/-- Options hold no braces. -/
def IsOptions (options : Option (List Char)) : Prop :=
  ∀ text ∈ options, ∀ c ∈ text, isOptionChar c = true

/-- The name of a kind: letters and underscores, at least one. -/
structure IsKindName (name : List Char) : Prop where
  ne_nil : name ≠ []
  isKindChar : ∀ c ∈ name, isKindChar c = true

/-- A kind whose parts are of the right shape. -/
structure Kind.IsProper (kind : Kind) : Prop where
  name_isKindName : IsKindName kind.name
  options_isOptions : IsOptions kind.options

namespace Written

/-- An argument as it is written. -/
def text (w : Written) : List Char := w.name ++ (kindText w.kind ++ markText w.mark)

/-- An argument whose parts are of the right shape. -/
structure IsProper (w : Written) : Prop where
  name_isFieldName : IsFieldName w.name
  kind_isProper : ∀ kind ∈ w.kind, kind.IsProper

/-- Whether an argument is made of these parts, but for white space around them. -/
def StandsIn (w : Written) (argument : String) : Prop :=
  w.IsProper ∧ ∃ before after, IsSpace before ∧ IsSpace after ∧
    argument.toList = before ++ (w.text ++ after)

/-- The kind that is read: the one that is written or else the word of the mark. -/
def kindName? (w : Written) : Option (List Char) :=
  (w.kind.map Kind.name).or (w.mark.map IndexMark.word)

/-- The field that is read. -/
def field (w : Written) : Field where
  name := String.ofList w.name
  type := (w.kindName?.map fun k => FieldType.ofText (String.ofList k)).getD .unspecified
  target := none

end Written

/-- An argument of the right form. -/
def IsArgument (argument : String) : Prop := ∃ w : Written, w.StandsIn argument

/-! ## Reading the parts -/

theorem isIndexMark_iff {text : List Char} : isIndexMark text = true ↔ ∃ mark, text = markText mark := by
  simp only [isIndexMark, Bool.or_eq_true, List.isEmpty_iff, beq_iff_eq]
  constructor
  · rintro ((rfl | rfl) | rfl)
    · exact ⟨none, rfl⟩
    · exact ⟨some .index, rfl⟩
    · exact ⟨some .uniq, rfl⟩
  · rintro ⟨_ | (_ | _), rfl⟩
    · exact .inl (.inl rfl)
    · exact .inl (.inr rfl)
    · exact .inr rfl

/-- A mark does not begin with a character of any of the classes. -/
theorem startsOutside_markText {p : Char → Bool} (hp : p ':' = false) (mark : Option IndexMark) :
    StartsOutside p (markText mark) := by
  cases mark with
  | none => exact startsOutside_nil p
  | some mark => exact startsOutside_cons.2 hp

theorem skipOptions_append {options : Option (List Char)} (h : IsOptions options)
    (mark : Option IndexMark) : skipOptions (optionsText options ++ markText mark) = markText mark := by
  cases options with
  | none =>
    rw [optionsText, List.nil_append]
    cases mark with
    | none => rfl
    | some mark => rfl
  | some text =>
    have hboundary : StartsOutside isOptionChar ('\x7d' :: markText mark) :=
      startsOutside_cons.2 (by decide)
    have hdrop := dropWhile_append_of_boundary (h text rfl) hboundary
    simp only [optionsText, List.cons_append, List.append_assoc, List.nil_append, skipOptions, hdrop]

theorem isOptions_none : IsOptions none := fun _ hnone => absurd hnone (Option.not_mem_none _)

/-- Behind the name of a kind stand options or none, and a mark or none. -/
theorem isIndexMark_skipOptions_iff {text : List Char} : isIndexMark (skipOptions text) = true ↔
    ∃ options mark, IsOptions options ∧ text = optionsText options ++ markText mark := by
  constructor
  · intro h
    unfold skipOptions at h
    split at h
    · rename_i rest
      split at h
      · rename_i behind hdrop
        obtain ⟨mark, rfl⟩ := isIndexMark_iff.1 h
        refine ⟨some (rest.takeWhile isOptionChar), mark, ?_, ?_⟩
        · rintro _ ⟨⟩ c hc
          exact List.mem_takeWhile_imp hc
        · have hrest := List.takeWhile_append_dropWhile (p := isOptionChar) (l := rest)
          rw [hdrop] at hrest
          rw [optionsText, List.cons_append, List.append_assoc, List.singleton_append, hrest]
      · obtain ⟨mark, hmark⟩ := isIndexMark_iff.1 h
        exact ⟨none, mark, isOptions_none, hmark⟩
    · obtain ⟨mark, hmark⟩ := isIndexMark_iff.1 h
      exact ⟨none, mark, isOptions_none, hmark⟩
  · rintro ⟨options, mark, hoptions, rfl⟩
    rw [skipOptions_append hoptions]
    exact isIndexMark_iff.2 ⟨mark, rfl⟩

/-- What stands behind the name of a kind does not go on with it. -/
theorem startsOutside_optionsText (options : Option (List Char)) (mark : Option IndexMark) :
    StartsOutside isKindChar (optionsText options ++ markText mark) := by
  cases options with
  | none => exact startsOutside_markText (by decide) mark
  | some text => exact startsOutside_cons.2 (by decide)

/-- **What is read behind a name** is a kind, or nothing if nothing stands there. -/
theorem readKind?_eq_some_iff {text : List Char} {found : Option (List Char)} :
    readKind? text = some found ↔ ∃ (kind : Option Kind) (mark : Option IndexMark),
      (∀ k ∈ kind, k.IsProper) ∧ text = kindText kind ++ markText mark ∧
        found = (kind.map Kind.name).or (mark.map IndexMark.word) := by
  constructor
  · intro h
    unfold readKind? at h
    split at h
    · exact ⟨none, none, fun _ hnone => absurd hnone (Option.not_mem_none _), rfl,
        (Option.some.inj h).symm⟩
    · rename_i rest
      simp only at h
      split at h
      · rename_i hkind
        obtain ⟨hne, hmark⟩ := Bool.and_eq_true_iff.1 hkind
        obtain ⟨options, mark, hoptions, hrest⟩ := isIndexMark_skipOptions_iff.1 hmark
        refine ⟨some ⟨rest.takeWhile isKindChar, options⟩, mark, ?_, ?_, (Option.some.inj h).symm⟩
        · rintro _ ⟨⟩
          exact ⟨⟨by simpa using hne, fun c hc => List.mem_takeWhile_imp hc⟩, hoptions⟩
        · rw [kindText, List.cons_append, List.append_assoc, ← hrest, List.takeWhile_append_dropWhile]
      · exact absurd h (Option.some_ne_none _).symm
    · exact absurd h (Option.some_ne_none _).symm
  · rintro ⟨kind, mark, hkind, rfl, rfl⟩
    cases kind with
    | none =>
      -- The word of a mark is read as a kind.
      cases mark with
      | none => rfl
      | some mark => cases mark <;> rfl
    | some kind =>
      obtain ⟨⟨hne, hname⟩, hoptions⟩ := hkind kind rfl
      have hboundary := startsOutside_optionsText kind.options mark
      have hempty : kind.name.isEmpty = false := by simpa using hne
      have hmark : isIndexMark (skipOptions (optionsText kind.options ++ markText mark)) = true :=
        isIndexMark_skipOptions_iff.2 ⟨_, _, hoptions, rfl⟩
      simp only [kindText, List.cons_append, List.append_assoc, readKind?,
        takeWhile_append_of_boundary hname hboundary, dropWhile_append_of_boundary hname hboundary,
        hempty, hmark]
      rfl

/-! ## Reading an argument -/

/-- What stands behind a name does not go on with it. -/
theorem startsOutside_kindText (kind : Option Kind) (mark : Option IndexMark) :
    StartsOutside isNameChar (kindText kind ++ markText mark) := by
  cases kind with
  | none => exact startsOutside_markText (by decide) mark
  | some kind => exact startsOutside_cons.2 (by decide)

theorem isNameChar_of_isKindChar {c : Char} (h : isKindChar c = true) : isNameChar c = true :=
  isNameChar_of_isNameStart h

namespace Written

variable {w : Written} (h : w.IsProper)

include h

/-- An argument begins with a character of a name. -/
theorem IsProper.exists_text_eq : ∃ c rest, w.name = c :: rest ∧ isNameStart c = true ∧
    (∀ d ∈ rest, isNameChar d = true) ∧ w.text = c :: (rest ++ (kindText w.kind ++ markText w.mark)) := by
  obtain ⟨c, rest, hname, hc, hrest⟩ := h.name_isFieldName
  exact ⟨c, rest, hname, hc, hrest, by rw [text, hname, List.cons_append]⟩

/-- An argument does not end in white space. -/
theorem IsProper.endsOutside_text : EndsOutside isBlank w.text := by
  have hname : EndsOutside isBlank w.name :=
    endsOutside_of_forall fun c hc => isBlank_eq_false_of_isNameChar (h.name_isFieldName.isPlain c hc)
  have hmark : EndsOutside isBlank (markText w.mark) := by
    cases w.mark with
    | none => exact endsOutside_nil isBlank
    | some mark =>
      cases mark with
      | index => rintro _ ⟨⟩; rfl
      | uniq => rintro _ ⟨⟩; rfl
  refine hname.append (EndsOutside.append ?_ hmark)
  cases hkind : w.kind with
  | none => exact endsOutside_nil isBlank
  | some kind =>
    obtain ⟨⟨-, hkindName⟩, -⟩ := h.kind_isProper kind hkind
    have hoptions : EndsOutside isBlank (optionsText kind.options) := by
      cases kind.options with
      | none => exact endsOutside_nil isBlank
      | some options =>
        intro c hc
        rw [optionsText, ← List.cons_append, List.getLast?_concat] at hc
        obtain rfl := Option.some.inj hc
        decide
    have hfront : ∀ c ∈ ':' :: kind.name, isBlank c = false :=
      List.forall_mem_cons.2 ⟨by decide, fun c hc =>
        isBlank_eq_false_of_isNameChar (isNameChar_of_isKindChar (hkindName c hc))⟩
    exact (endsOutside_of_forall hfront).append hoptions

/-- The parts of an argument are what is left of it without the white space around it. -/
theorem IsProper.trim_eq {argument before after : List Char} (hbefore : IsSpace before)
    (hafter : IsSpace after) (heq : argument = before ++ (w.text ++ after)) :
    trim argument = w.text := by
  obtain ⟨c, rest, -, hc, -, htext⟩ := h.exists_text_eq
  have hfirst : StartsOutside isBlank w.text := by
    rw [htext]
    exact startsOutside_cons.2 (isBlank_eq_false_of_isNameChar (isNameChar_of_isNameStart hc))
  have hne : w.text ≠ [] := by
    rw [htext]
    exact List.cons_ne_nil _ _
  rw [heq, trim_surrounded hbefore hafter hne hfirst h.endsOutside_text]

end Written

/-- **What is read of an argument** is the field of its parts, whichever parts of the right shape make it
up. -/
theorem read?_eq_some_iff {argument : String} {f : Field} :
    read? argument = some f ↔ ∃ w : Written, w.StandsIn argument ∧ f = w.field := by
  constructor
  · intro h
    obtain ⟨before, after, hbefore, hafter, heq⟩ := exists_eq_append_trim argument.toList
    unfold read? at h
    split at h
    · exact absurd h (Option.some_ne_none _).symm
    · rename_i c rest htrim
      split at h
      · rename_i hc
        obtain ⟨found, hfound, rfl⟩ := Option.map_eq_some_iff.1 h
        obtain ⟨kind, mark, hkind, htail, rfl⟩ := readKind?_eq_some_iff.1 hfound
        have htext : (⟨c :: rest.takeWhile isNameChar, kind, mark⟩ : Written).text = c :: rest := by
          rw [Written.text, ← htail]
          exact congrArg (c :: ·) List.takeWhile_append_dropWhile
        rw [htrim, ← htext] at heq
        exact ⟨_, ⟨⟨⟨c, _, rfl, hc, fun d hd => List.mem_takeWhile_imp hd⟩, hkind⟩,
          before, after, hbefore, hafter, heq⟩, rfl⟩
      · exact absurd h (Option.some_ne_none _).symm
  · rintro ⟨w, ⟨hproper, before, after, hbefore, hafter, heq⟩, rfl⟩
    obtain ⟨c, rest, hname, hc, hrest, htext⟩ := hproper.exists_text_eq
    have hboundary := startsOutside_kindText w.kind w.mark
    have hkind : readKind? (kindText w.kind ++ markText w.mark) = some w.kindName? :=
      readKind?_eq_some_iff.2 ⟨w.kind, w.mark, hproper.kind_isProper, rfl, rfl⟩
    unfold read?
    rw [hproper.trim_eq hbefore hafter heq, htext]
    simp only [hc, if_true, takeWhile_append_of_boundary hrest hboundary,
      dropWhile_append_of_boundary hrest hboundary, hkind]
    rw [Written.field, hname]
    rfl

/-- An argument is read if it is of the form. -/
theorem exists_read?_iff {argument : String} :
    (∃ f, read? argument = some f) ↔ IsArgument argument := by
  constructor
  · rintro ⟨f, hf⟩
    obtain ⟨w, hw, -⟩ := read?_eq_some_iff.1 hf
    exact ⟨w, hw⟩
  · rintro ⟨w, hw⟩
    exact ⟨w.field, read?_eq_some_iff.2 ⟨w, hw, rfl⟩⟩

theorem read?_eq_none_iff {argument : String} : read? argument = none ↔ ¬ IsArgument argument := by
  rw [← exists_read?_iff, Option.eq_none_iff_forall_ne_some, not_exists]

/-- The parts as they are written, with nothing around them, are read. -/
theorem Written.IsProper.read?_text {w : Written} (h : w.IsProper) :
    read? (String.ofList w.text) = some w.field :=
  read?_eq_some_iff.2 ⟨w, ⟨h, [], [], isSpace_nil, isSpace_nil, by simp⟩, rfl⟩

/-- The word of a mark is no known name of a type. -/
theorem ofText_word (mark : IndexMark) :
    FieldType.ofText (String.ofList mark.word) = .other (String.ofList mark.word) := by
  cases mark with
  | index => decide
  | uniq => decide

/-- An argument without a kind is of the right shape if its name is one. -/
theorem Written.isProper_of_bare {name : List Char} (hname : IsFieldName name)
    (mark : Option IndexMark) : (⟨name, none, mark⟩ : Written).IsProper :=
  ⟨hname, fun _ hk => absurd hk (Option.not_mem_none _)⟩

/-- **What stands behind a kind is read past**: with options, a mark, or both, the field is the one of the
name and the kind.  Behind a bare name the word of a mark is the kind. -/
theorem read?_past_kind {name : List Char} (hname : IsFieldName name) :
    (∀ (kind : List Char) (options : Option (List Char)) (mark : Option IndexMark),
      IsKindName kind → IsOptions options →
      read? (String.ofList (Written.text ⟨name, some ⟨kind, options⟩, mark⟩)) =
        some ⟨String.ofList name, .ofText (String.ofList kind), none⟩) ∧
    read? (String.ofList name) = some ⟨String.ofList name, .unspecified, none⟩ ∧
    ∀ mark : IndexMark, read? (String.ofList (Written.text ⟨name, none, some mark⟩)) =
      some ⟨String.ofList name, .other (String.ofList mark.word), none⟩ := by
  refine ⟨fun kind options mark hkind hoptions => ?_, ?_, fun mark => ?_⟩
  · have hproper : (⟨name, some ⟨kind, options⟩, mark⟩ : Written).IsProper :=
      ⟨hname, fun _ hk => Option.some.inj hk ▸ ⟨hkind, hoptions⟩⟩
    rw [hproper.read?_text]
    simp only [Written.field, Written.kindName?, Option.map_some, Option.some_or, Option.getD_some]
  · have hbare := (Written.isProper_of_bare hname none).read?_text
    rw [Written.text, kindText, markText, List.append_nil, List.append_nil] at hbare
    exact hbare
  · rw [(Written.isProper_of_bare hname (some mark)).read?_text]
    simp only [Written.field, Written.kindName?, Option.map_none, Option.map_some, Option.none_or,
      Option.getD_some, ofText_word]

/-- Options with a comma, and a mark. -/
theorem read?_past_kind_price : IsFieldName "price".toList ∧ IsKindName "decimal".toList ∧
    IsOptions (some "10,2".toList) ∧
      read? "price:decimal\x7b10,2\x7d:index" = some ⟨"price", .decimal, none⟩ ∧
        read? "price" = some ⟨"price", .unspecified, none⟩ ∧
          read? "price:uniq" = some ⟨"price", .other "uniq", none⟩ := by
  have hname : IsFieldName "price".toList := ⟨'p', "rice".toList, rfl, by decide, by decide⟩
  have hkind : IsKindName "decimal".toList := ⟨by decide, List.all_eq_true.1 (by decide)⟩
  have hoptions : IsOptions (some "10,2".toList) := by
    rintro _ ⟨⟩
    exact List.all_eq_true.1 (by decide)
  obtain ⟨hpast, hbare, hmark⟩ := read?_past_kind hname
  have hprice := hpast "decimal".toList (some "10,2".toList) (some .index) hkind hoptions
  have htext : String.ofList (Written.text
      ⟨"price".toList, some ⟨"decimal".toList, some "10,2".toList⟩, some .index⟩) =
        "price:decimal\x7b10,2\x7d:index" := by decide
  have hdecimal : FieldType.ofText (String.ofList "decimal".toList) = .decimal := by decide
  rw [htext, hdecimal] at hprice
  exact ⟨hname, hkind, hoptions, hprice, hbare, hmark .uniq⟩

/-- **A mark behind a bare name is not read past.** -/
theorem read?_mark_ne_bare : ∃ marked bare, read? "title:index" = some marked ∧
    read? "title" = some bare ∧ marked ≠ bare := by
  refine ⟨⟨"title", .other "index", none⟩, ⟨"title", .unspecified, none⟩, ?_, ?_, ?_⟩
  · decide
  · decide
  · decide

/-! ## Reading all arguments -/

theorem readAll_cons (argument : String) (rest : List String) : readAll (argument :: rest) =
    match read? argument with
    | none => .error (.invalidAttribute argument)
    | some field => (readAll rest).map (field :: ·) := rfl

/-- **All arguments are read**, one field for each, in order. -/
theorem readAll_eq_ok_iff {arguments : List String} {fields : List Field} :
    readAll arguments = .ok fields ↔ List.Forall₂ (fun a f => read? a = some f) arguments fields := by
  induction arguments generalizing fields with
  | nil =>
    rw [List.forall₂_nil_left_iff]
    exact ⟨fun h => (Except.ok.inj h).symm, fun h => h ▸ rfl⟩
  | cons argument rest ih =>
    rw [readAll_cons]
    constructor
    · intro h
      cases hread : read? argument with
      | none =>
        rw [hread] at h
        cases h
      | some first =>
        rw [hread] at h
        cases hrest : readAll rest with
        | error fault =>
          rw [hrest] at h
          cases h
        | ok others =>
          rw [hrest] at h
          exact Except.ok.inj h ▸ .cons hread (ih.1 hrest)
    · rintro (_ | ⟨hread, hrest⟩)
      rw [hread, ih.2 hrest]
      rfl

/-- The fields that are read have the names of fields, and no targets. -/
theorem of_mem_readAll {arguments : List String} {fields : List Field}
    (h : readAll arguments = .ok fields) : ∀ f ∈ fields, IsFieldName f.name.toList ∧ f.target = none := by
  have hread := (readAll_eq_ok_iff.1 h).flip
  have hboth : List.Forall₂ (fun f a => (IsFieldName f.name.toList ∧ f.target = none) ∧
      read? a = some f) fields arguments := by
    refine hread.imp fun f a hf => ⟨?_, hf⟩
    obtain ⟨w, ⟨hproper, -⟩, rfl⟩ := read?_eq_some_iff.1 hf
    refine ⟨?_, rfl⟩
    rw [Written.field, String.toList_ofList]
    exact hproper.name_isFieldName
  exact ((List.forall₂_and_left _ _).1 hboth).1

/-- **The first argument that is not read** is the failure. -/
theorem readAll_eq_error_iff {arguments : List String} {fault : Fault} :
    readAll arguments = .error fault ↔ ∃ front argument rest, arguments = front ++ argument :: rest ∧
      (∀ a ∈ front, ∃ f, read? a = some f) ∧ read? argument = none ∧
        fault = .invalidAttribute argument := by
  induction arguments with
  | nil =>
    constructor
    · intro h
      cases h
    · rintro ⟨front, argument, rest, hnil, -⟩
      exact absurd hnil.symm (List.append_ne_nil_of_right_ne_nil _ (List.cons_ne_nil _ _))
  | cons first others ih =>
    rw [readAll_cons]
    cases hread : read? first with
    | none =>
      constructor
      · intro h
        exact ⟨[], first, others, rfl, fun _ ha => absurd ha List.not_mem_nil, hread,
          (Except.error.inj h).symm⟩
      · rintro ⟨front, argument, rest, heq, hfront, -, rfl⟩
        cases front with
        | nil => rw [(List.cons.inj heq).1]
        | cons a front =>
          obtain ⟨f, hf⟩ := hfront a List.mem_cons_self
          rw [← (List.cons.inj heq).1, hread] at hf
          cases hf
    | some field =>
      have hmap : (readAll others).map (field :: ·) = .error fault ↔
          readAll others = .error fault := by
        cases readAll others with
        | error other => simp [Except.map]
        | ok fields => simp [Except.map]
      rw [hmap, ih]
      constructor
      · rintro ⟨front, argument, rest, rfl, hfront, hargument, hfault⟩
        exact ⟨first :: front, argument, rest, rfl,
          List.forall_mem_cons.2 ⟨⟨field, hread⟩, hfront⟩, hargument, hfault⟩
      · rintro ⟨front, argument, rest, heq, hfront, hargument, hfault⟩
        cases front with
        | nil =>
          rw [← (List.cons.inj heq).1, hread] at hargument
          cases hargument
        | cons a front =>
          exact ⟨front, argument, rest, (List.cons.inj heq).2, (List.forall_mem_cons.1 hfront).2,
            hargument, hfault⟩

/-- The failure quotes the argument as it was given. -/
theorem exists_message_eq (argument : String) : ∃ before behind,
    (Fault.invalidAttribute argument).message = before ++ ("'" ++ argument ++ "'") ++ behind := by
  refine ⟨"Invalid attribute: ", " is not of the form name[:kind[\x7boptions\x7d]]", ?_⟩
  have hfront : "Invalid attribute: " ++ "'" = "Invalid attribute: '" := rfl
  have hback : "'" ++ " is not of the form name[:kind[\x7boptions\x7d]]" =
      "' is not of the form name[:kind[\x7boptions\x7d]]" := rfl
  rw [String.append_assoc, String.append_assoc, String.append_assoc, hback, ← String.append_assoc, hfront,
    ← String.append_assoc]
  rfl

/-- **The arguments are read exactly if each of them is of the form**, and then there is one field for each
of them, in order, with the name of the argument and without a target.  Otherwise the first argument that
is not of the form is the failure, and it is quoted as it was given. -/
theorem readAll_isArgument (arguments : List String) :
    ((∃ fields, readAll arguments = .ok fields ∧
        List.Forall₂ (fun a f => f.target = none ∧
          ∀ w : Written, w.StandsIn a → f.name = String.ofList w.name) arguments fields) ↔
      ∀ a ∈ arguments, IsArgument a) ∧
    ∀ fault, readAll arguments = .error fault ↔ ∃ front a rest, arguments = front ++ a :: rest ∧
      (∀ x ∈ front, IsArgument x) ∧ ¬ IsArgument a ∧ fault = .invalidAttribute a ∧
        ∃ before behind, fault.message = before ++ ("'" ++ a ++ "'") ++ behind := by
  have fails : ∀ fault, readAll arguments = .error fault ↔ ∃ front a rest,
      arguments = front ++ a :: rest ∧ (∀ x ∈ front, IsArgument x) ∧ ¬ IsArgument a ∧
        fault = .invalidAttribute a := by
    intro fault
    simp only [readAll_eq_error_iff, exists_read?_iff, read?_eq_none_iff]
  refine ⟨⟨?_, fun all => ?_⟩, fun fault => ?_⟩
  · rintro ⟨fields, hread, -⟩
    have hboth : List.Forall₂ (fun a f => IsArgument a ∧ read? a = some f) arguments fields :=
      (readAll_eq_ok_iff.1 hread).imp fun a f hf => ⟨exists_read?_iff.1 ⟨f, hf⟩, hf⟩
    exact ((List.forall₂_and_left _ _).1 hboth).1
  · cases hread : readAll arguments with
    | error fault =>
      obtain ⟨front, a, rest, rfl, -, hnot, -⟩ := (fails fault).1 hread
      exact absurd (all a (List.mem_append_right _ List.mem_cons_self)) hnot
    | ok fields =>
      refine ⟨fields, rfl, (readAll_eq_ok_iff.1 hread).imp fun a f hf => ?_⟩
      obtain ⟨w, -, rfl⟩ := read?_eq_some_iff.1 hf
      refine ⟨rfl, fun w' hw' => ?_⟩
      have hsame : w.field = w'.field :=
        Option.some.inj (hf.symm.trans (read?_eq_some_iff.2 ⟨w', hw', rfl⟩))
      exact congrArg Field.name hsame
  · rw [fails]
    constructor
    · rintro ⟨front, a, rest, heq, hfront, hnot, rfl⟩
      exact ⟨front, a, rest, heq, hfront, hnot, rfl, exists_message_eq a⟩
    · rintro ⟨front, a, rest, heq, hfront, hnot, hfault, -⟩
      exact ⟨front, a, rest, heq, hfront, hnot, hfault⟩

end InterfaceSync.Attribute
