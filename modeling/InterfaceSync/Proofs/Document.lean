import InterfaceSync.Proofs.Document.Storing
import InterfaceSync.Proofs.Workspace

/-!
# Reading and writing the definitions document

What is in the document before and after it is read or written.

* `Holds`: the document has a text, or there is no file at its place.
* `read_cases`, `append_cases`, `replace_cases`: reading tells the text and changes nothing; writing
  succeeds, and the document has the new text, or fails, and the document has the text from before.

A document holds nothing if no file stands at the place that its path spells.  A path that goes up again
from a directory that is not there spells a place without leading to it, so that directories made on the
way may bring a file to light.  For all other paths a document that is found missing holds nothing
(`holds_none_of_text?_eq_none`).
-/

namespace InterfaceSync

theorem fromUTF8?_eq_some_iff {bytes : ByteArray} {text : String} :
    String.fromUTF8? bytes = some text ↔ bytes = text.toUTF8 := by
  unfold String.fromUTF8?
  split
  · constructor
    · intro h
      rw [← Option.some.inj h]
      rfl
    · rintro rfl
      rfl
  · rename_i hvalid
    constructor
    · intro h
      simp at h
    · rintro rfl
      exact absurd text.isValidUTF8 hvalid

namespace Document

variable {doc : Document} {t u : FileTree} {workingDirectory : Location}

/-! ## What the document holds -/

/-- What the document holds: a text, or nothing, in which case no file stands at its place. -/
def Holds (doc : Document) (t : FileTree) (workingDirectory : Location) : Option String → Prop
  | some text => doc.text? t workingDirectory = .ok (some text)
  | none => ∀ bytes mode, t.get? (doc.place workingDirectory) ≠ some (.file bytes mode)

/-- The bytes of the document are those of the file that its path leads to. -/
theorem read_eq_ok_iff {bytes : ByteArray} :
    t.read workingDirectory doc.path = .ok bytes ↔
      t.locate workingDirectory doc.path = .ok (doc.place workingDirectory) ∧
        ∃ mode, t.get? (doc.place workingDirectory) = some (.file bytes mode) := by
  unfold FileTree.read FileTree.stat
  constructor
  · intro h
    cases hlocate : t.locate workingDirectory doc.path with
    | error e => simp [hlocate] at h
    | ok location =>
      have hplace : location = doc.place workingDirectory := FileTree.locate_eq_ok_placeOf hlocate
      rw [hplace] at hlocate ⊢
      rw [hlocate] at h
      refine ⟨rfl, ?_⟩
      cases hget : t.get? (doc.place workingDirectory) with
      | none => simp [hget] at h
      | some e =>
        cases e with
        | directory => simp [hget] at h
        | file bytes' mode =>
          simp only [hget, Except.ok.injEq] at h
          rw [h]
          exact ⟨mode, rfl⟩
  · rintro ⟨hlocate, mode, hget⟩
    rw [hlocate]
    simp only [hget]

/-- The text of the document is that of the file that its path leads to. -/
theorem text?_eq_some_iff {text : String} :
    doc.text? t workingDirectory = .ok (some text) ↔
      t.locate workingDirectory doc.path = .ok (doc.place workingDirectory) ∧
        ∃ mode, t.get? (doc.place workingDirectory) = some (.file text.toUTF8 mode) := by
  rw [← read_eq_ok_iff]
  unfold text? FileTree.readText
  cases hread : t.read workingDirectory doc.path with
  | error e => cases e <;> simp
  | ok bytes =>
    cases htext : String.fromUTF8? bytes with
    | none =>
      simp only [htext]
      constructor
      · intro h
        simp at h
      · intro h
        rw [fromUTF8?_eq_some_iff.2 (Except.ok.inj h)] at htext
        simp at htext
    | some text' =>
      simp only [htext, Except.ok.injEq, Option.some.injEq]
      rw [fromUTF8?_eq_some_iff.1 htext]
      exact ⟨fun h => h ▸ rfl, fun h => String.toByteArray_inj.1 h⟩

/-- A document that holds a text is read, and so are its bytes. -/
theorem Holds.read_eq_ok {text : String} (h : doc.Holds t workingDirectory (some text)) :
    t.read workingDirectory doc.path = .ok text.toUTF8 :=
  read_eq_ok_iff.2 (text?_eq_some_iff.1 h)

/-- A document that holds nothing is not read. -/
theorem Holds.read_ne_ok (h : doc.Holds t workingDirectory none) (bytes : ByteArray) :
    t.read workingDirectory doc.path ≠ .ok bytes := by
  intro hread
  obtain ⟨-, mode, hget⟩ := read_eq_ok_iff.1 hread
  exact h bytes mode hget

/-- The bytes of a document that is read are those of its text, and there are none if it is missing. -/
theorem bytes_of_text? {held : Option String}
    (h : doc.text? t workingDirectory = .ok held) :
    doc.bytes t workingDirectory = .ok (held.getD "").toUTF8 := by
  unfold Document.bytes
  cases held with
  | some text =>
    have hread : t.read workingDirectory doc.path = .ok text.toUTF8 := Holds.read_eq_ok h
    rw [hread]
    rfl
  | none =>
    unfold text? FileTree.readText at h
    cases hread : t.read workingDirectory doc.path with
    | error e => cases e <;> simp [hread] at h ⊢
    | ok bytes => cases htext : String.fromUTF8? bytes <;> simp [hread, htext] at h

/-- If the path does not go up, a document that is missing holds nothing. -/
theorem holds_none_of_text?_eq_none (rooted : t.IsRooted) (hup : ".." ∉ Path.components doc.path)
    (hne : doc.path.isEmpty = false) (h : doc.text? t workingDirectory = .ok none) :
    doc.Holds t workingDirectory none := by
  intro bytes mode hget
  have hend : t.get? (FileTree.placeOf workingDirectory doc.path) ≠ none := by
    intro hnone
    rw [place, hnone] at hget
    simp at hget
  have hread := rooted.read_ne_notFound hup hne hend
  unfold text? FileTree.readText at h
  cases hresult : t.read workingDirectory doc.path with
  | error e => cases e <;> simp [hresult] at h hread
  | ok bytes => cases htext : String.fromUTF8? bytes <;> simp [hresult, htext] at h

/-- Making directories leaves a document as it is. -/
theorem Holds.of_grows {held : Option String} (h : doc.Holds t workingDirectory held)
    (grows : FileTree.Grows t u) : doc.Holds u workingDirectory held := by
  cases held with
  | none => exact fun bytes mode hget => h bytes mode (grows.get?_eq_file hget)
  | some text =>
    obtain ⟨hlocate, mode, hget⟩ := text?_eq_some_iff.1 h
    exact text?_eq_some_iff.2 ⟨grows.locate_eq_ok hlocate hget, mode, grows.get?_eq_some hget⟩

/-! ## Writing -/

/-- A text that was put into the document is what it holds. -/
theorem IsStored.holds {text : String} (h : doc.IsStored t workingDirectory text.toUTF8 u)
    (can : doc.CanStore t workingDirectory) : doc.Holds u workingDirectory (some text) := by
  refine text?_eq_some_iff.2 ⟨(h.canMove can).locate_eq, doc.modeAt t workingDirectory, ?_⟩
  rw [h, if_pos rfl]

/-- A text is put into the document, or the document holds what it held. -/
theorem Holds.store {held : Option String} (h : doc.Holds t workingDirectory held) (text : String) :
    (∃ v, doc.store t workingDirectory text.toUTF8 = (.ok (), v) ∧
        doc.Holds v workingDirectory (some text)) ∨
      (∃ e v, doc.store t workingDirectory text.toUTF8 = (.error e, v) ∧
        doc.Holds v workingDirectory held) := by
  rcases doc.store_cases t workingDirectory text.toUTF8 with
    ⟨can, v, hstore, hv⟩ | ⟨-, e, v, hstore, hv⟩
  · exact .inl ⟨v, hstore, hv.holds can⟩
  · refine .inr ⟨e, v, hstore, h.of_grows fun l => ?_⟩
    rw [hv]
    exact doc.grows_prepared t workingDirectory l

/-- A text is put behind what is in the document, or the document holds what it held. -/
theorem Holds.extend {held : Option String} (h : doc.Holds t workingDirectory held) (text : String) :
    (∃ v, doc.extend t workingDirectory text = (.ok (), v) ∧
        doc.Holds v workingDirectory (some (held.getD "" ++ text))) ∨
      (∃ e v, doc.extend t workingDirectory text = (.error e, v) ∧
        doc.Holds v workingDirectory held) := by
  have hbytes : doc.bytes t workingDirectory = .ok (held.getD "").toUTF8 ∨
      ∃ e, doc.bytes t workingDirectory = .error e := by
    unfold bytes
    cases held with
    | some before => exact .inl (by rw [h.read_eq_ok]; rfl)
    | none =>
      cases hread : t.read workingDirectory doc.path with
      | ok bytes => exact absurd hread (h.read_ne_ok bytes)
      | error e =>
        cases e with
        | notFound => exact .inl rfl
        | _ => exact .inr ⟨_, rfl⟩
  unfold Document.extend
  rcases hbytes with hbytes | ⟨e, hbytes⟩
  · rw [hbytes]
    have happend : (held.getD "").toUTF8 ++ text.toUTF8 = (held.getD "" ++ text).toUTF8 :=
      String.toByteArray_append.symm
    simp only [happend]
    exact h.store _
  · rw [hbytes]
    exact .inr ⟨e, t, rfl, h⟩

/-! ## The operations -/

/-- What the document holds in a workspace. -/
def HoldsIn (doc : Document) (w : Workspace) (held : Option String) : Prop :=
  doc.Holds w.files w.directory held

variable {w : Workspace} {held : Option String}

theorem append_eq (doc : Document) (text : String) (w : Workspace) :
    doc.append text w =
      match doc.extend w.files w.directory text with
      | (.ok (), files) => .ok () { w with files := files }
      | (.error fault, files) => .error fault { w with files := files } := by
  rw [append, Action.bind_of_ok (Action.look_apply _ w)]
  rcases doc.extend w.files w.directory text with ⟨e | ⟨⟨⟩⟩, files⟩
  · exact Action.bind_of_ok (Action.setFiles_apply files w) _
  · exact Action.bind_of_ok (Action.setFiles_apply files w) _

/-- An operation that goes on once a text was appended. -/
theorem bind_append {α : Type} (doc : Document) (text : String) (rest : Unit → Action α)
    (w : Workspace) :
    (doc.append text >>= rest) w =
      match doc.extend w.files w.directory text with
      | (.ok (), files) => rest () { w with files := files }
      | (.error e, files) => .error e { w with files := files } := by
  have happend := doc.append_eq text w
  rcases hextend : doc.extend w.files w.directory text with ⟨e | ⟨⟨⟩⟩, files⟩
  · rw [hextend] at happend
    rw [Action.bind_of_error happend]
  · rw [hextend] at happend
    rw [Action.bind_of_ok happend]

theorem replace_eq (doc : Document) (text : String) (w : Workspace) :
    doc.replace text w =
      match doc.store w.files w.directory text.toUTF8 with
      | (.ok (), files) => .ok () { w with files := files }
      | (.error fault, files) => .error fault { w with files := files } := by
  rw [replace, Action.bind_of_ok (Action.look_apply _ w)]
  rcases doc.store w.files w.directory text.toUTF8 with ⟨e | ⟨⟨⟩⟩, files⟩
  · exact Action.bind_of_ok (Action.setFiles_apply files w) _
  · exact Action.bind_of_ok (Action.setFiles_apply files w) _

theorem read_eq (doc : Document) (w : Workspace) :
    doc.read w =
      match doc.text? w.files w.directory with
      | .ok text => .ok text w
      | .error fault => .error fault w := by
  rw [read, Action.bind_of_ok (Action.look_apply _ w)]
  cases doc.text? w.files w.directory with
  | error e => rfl
  | ok text => rfl

/-- **Appending** puts the text behind what the document holds, or fails and leaves it. -/
theorem append_cases (h : doc.HoldsIn w held) (text : String) :
    (∃ files, doc.append text w = .ok () { w with files := files } ∧
        doc.Holds files w.directory (some (held.getD "" ++ text))) ∨
      (∃ e files, doc.append text w = .error e { w with files := files } ∧
        doc.Holds files w.directory held) := by
  rw [append_eq]
  rcases Holds.extend h text with ⟨v, hextend, hv⟩ | ⟨e, v, hextend, hv⟩
  · rw [hextend]
    exact .inl ⟨v, rfl, hv⟩
  · rw [hextend]
    exact .inr ⟨e, v, rfl, hv⟩

/-- **Replacing** puts the text into the document, or fails and leaves what it holds. -/
theorem replace_cases (h : doc.HoldsIn w held) (text : String) :
    (∃ files, doc.replace text w = .ok () { w with files := files } ∧
        doc.Holds files w.directory (some text)) ∨
      (∃ e files, doc.replace text w = .error e { w with files := files } ∧
        doc.Holds files w.directory held) := by
  rw [replace_eq]
  rcases Holds.store h text with ⟨v, hstore, hv⟩ | ⟨e, v, hstore, hv⟩
  · rw [hstore]
    exact .inl ⟨v, rfl, hv⟩
  · rw [hstore]
    exact .inr ⟨e, v, rfl, hv⟩

/-- **Reading** tells what the document holds; only what holds nothing can fail to be read. -/
theorem read_cases (h : doc.HoldsIn w held) :
    doc.read w = .ok held w ∨ held = none ∧ ∃ e, doc.read w = .error e w := by
  rw [read_eq]
  cases held with
  | some text =>
    have htext : doc.text? w.files w.directory = .ok (some text) := h
    exact .inl (by rw [htext])
  | none =>
    cases htext : doc.text? w.files w.directory with
    | error e => exact .inr ⟨rfl, e, rfl⟩
    | ok found =>
      cases found with
      | none => exact .inl rfl
      | some text =>
        obtain ⟨-, mode, hget⟩ := text?_eq_some_iff.1 htext
        exact absurd hget (h _ mode)

/-! ## A document by itself -/

/-- A document in the root. -/
def inRoot : Document := ⟨"models.d.ts"⟩

/-- A workspace with nothing but the document in the root, or with nothing at all. -/
def onlyInRoot (held : Option String) : Workspace where
  files := ⟨held.toList.map fun text => (["models.d.ts"], .file text.toUTF8 FileTree.newFileMode)⟩
  directory := []
  environment := .empty
  events := []
  output := ""

theorem holdsIn_onlyInRoot (held : Option String) : inRoot.HoldsIn (onlyInRoot held) held := by
  cases held with
  | none =>
    intro bytes mode hget
    have hnone : (onlyInRoot none).files.get? (inRoot.place (onlyInRoot none).directory) = none := rfl
    rw [hnone] at hget
    simp at hget
  | some text => exact text?_eq_some_iff.2 ⟨rfl, FileTree.newFileMode, rfl⟩

end Document
end InterfaceSync
