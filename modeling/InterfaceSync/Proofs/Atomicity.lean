import InterfaceSync.Proofs.Synchronisation

/-!
# All or nothing

What an operation on the definitions document leaves of the file tree.  If it fails, every file is as
it was, and nothing is new but directories above the document.  If it writes, the document has the new
bytes under the permission bits that it had, and apart from such directories nothing else has changed.

A text is appended to the bytes that are found in the document, and a document that is found missing
counts as empty.  Its directory is made only then, and if the path goes up again from a directory that was
not there, it leads to a file that was not found before.  The bytes of that file are lost
(`append_loses_bytes`).  This is the only case in which the bytes that are found are not those at the
place of the document (`eq_bytesAt_of_missesNoFile`), and a path that does not go up is not in it
(`missesNoFile_of_isRooted`).

* `IsLeft`, `IsWritten`: the tree behind an operation that fails, and behind one that writes.
* `store_cases_files`, `extend_cases_files`: putting bytes into the document and behind what is in it.
* `IsAtomic`, `isAtomic_operations`: every operation on the document does one or the other.
-/

namespace InterfaceSync
namespace Document

variable {doc : Document} {t u : FileTree} {workingDirectory : Location}

/-! ## The tree behind an operation -/

/-- Whether the directory of the document, or one above it, has its place at a location. -/
def IsAbove (doc : Document) (workingDirectory l : Location) : Prop :=
  ∃ up ∈ Path.ancestors doc.directory, l = FileTree.placeOf workingDirectory up

/-- What stands at a location is what stood there, or a directory above the document that is new. -/
def IsKept (doc : Document) (t : FileTree) (workingDirectory : Location) (u : FileTree)
    (l : Location) : Prop :=
  u.get? l = t.get? l ∨
    t.get? l = none ∧ u.get? l = some .directory ∧ doc.IsAbove workingDirectory l

/-- The tree behind an operation that fails: all is kept, and no temporary file remains. -/
def IsLeft (doc : Document) (t : FileTree) (workingDirectory : Location) (u : FileTree) : Prop :=
  ∀ l, doc.IsKept t workingDirectory u l

/-- The tree behind an operation that puts bytes into the document: the path leads to them, the
permission bits are those from before or those of a new file, and all else is kept. -/
structure IsWritten (doc : Document) (t : FileTree) (workingDirectory : Location) (bytes : ByteArray)
    (u : FileTree) : Prop where
  read_eq : u.read workingDirectory doc.path = .ok bytes
  get?_place : u.get? (doc.place workingDirectory) =
    some (.file bytes (doc.modeAt t workingDirectory))
  kept : ∀ l ≠ doc.place workingDirectory, doc.IsKept t workingDirectory u l

/-- The bytes of the file at the place of the document, or none if no file stands there. -/
def bytesAt (doc : Document) (t : FileTree) (workingDirectory : Location) : ByteArray :=
  match t.get? (doc.place workingDirectory) with
  | some (.file bytes _) => bytes
  | _ => .empty

/-- Whether a document that is found missing is none: no file stands at its place. -/
def MissesNoFile (doc : Document) (t : FileTree) (workingDirectory : Location) : Prop :=
  t.read workingDirectory doc.path = .error .notFound →
    ∀ bytes mode, t.get? (doc.place workingDirectory) ≠ some (.file bytes mode)

/-- On a path that does not go up no file is missed. -/
theorem missesNoFile_of_isRooted (rooted : t.IsRooted) (hup : ".." ∉ Path.components doc.path)
    (hne : doc.path.isEmpty = false) : doc.MissesNoFile t workingDirectory := by
  intro hread bytes mode hget
  refine rooted.read_ne_notFound hup hne ?_ hread
  rw [← place, hget]
  simp

/-! ## Putting bytes into the document -/

theorem IsLeft.refl (doc : Document) (t : FileTree) (workingDirectory : Location) :
    doc.IsLeft t workingDirectory t :=
  fun _ => .inl rfl

/-- What is new once the directory of the document was made stands above the document. -/
theorem isLeft_prepared (doc : Document) (t : FileTree) (workingDirectory : Location) :
    doc.IsLeft t workingDirectory (doc.prepared t workingDirectory) := by
  intro l
  rcases doc.grows_prepared t workingDirectory l with hsame | ⟨hnone, hnew⟩
  · exact .inl hsame
  · have hne : (doc.prepared t workingDirectory).get? l ≠ none := by
      rw [hnew]
      simp
    exact .inr ⟨hnone, hnew, FileTree.new_of_makeDirectories hnone hne⟩

theorem IsStored.isWritten {bytes : ByteArray} (h : doc.IsStored t workingDirectory bytes u)
    (can : doc.CanStore t workingDirectory) : doc.IsWritten t workingDirectory bytes u where
  read_eq := by
    refine read_eq_ok_iff.2 ⟨(h.canMove can).locate_eq, doc.modeAt t workingDirectory, ?_⟩
    rw [h, if_pos rfl]
  get?_place := by rw [h, if_pos rfl]
  kept := by
    intro l hl
    rw [IsKept, h l, if_neg hl]
    exact doc.isLeft_prepared t workingDirectory l

/-- **Bytes are put into the document, or the tree is left.** -/
theorem store_cases_files (doc : Document) (t : FileTree) (workingDirectory : Location)
    (bytes : ByteArray) :
    (∃ v, doc.store t workingDirectory bytes = (.ok (), v) ∧
        doc.IsWritten t workingDirectory bytes v) ∨
      (∃ e v, doc.store t workingDirectory bytes = (.error e, v) ∧
        doc.IsLeft t workingDirectory v) := by
  rcases doc.store_cases t workingDirectory bytes with ⟨can, v, hstore, hv⟩ | ⟨-, e, v, hstore, hv⟩
  · exact .inl ⟨v, hstore, hv.isWritten can⟩
  · refine .inr ⟨e, v, hstore, fun l => ?_⟩
    rw [IsKept, hv l]
    exact doc.isLeft_prepared t workingDirectory l

theorem bytesAt_of_forall_ne
    (h : ∀ bytes mode, t.get? (doc.place workingDirectory) ≠ some (.file bytes mode)) :
    doc.bytesAt t workingDirectory = .empty := by
  unfold bytesAt
  split
  · rename_i bytes mode hget
    exact absurd hget (h bytes mode)
  · rfl

/-- **The bytes that are found in the document are those at its place**, unless it is found missing while
a file stands there. -/
theorem eq_bytesAt_of_missesNoFile (misses : doc.MissesNoFile t workingDirectory) {bytes : ByteArray}
    (h : doc.bytes t workingDirectory = .ok bytes) : bytes = doc.bytesAt t workingDirectory := by
  unfold Document.bytes at h
  cases hread : t.read workingDirectory doc.path with
  | ok found =>
    obtain ⟨-, mode, hget⟩ := read_eq_ok_iff.1 hread
    rw [hread] at h
    rw [bytesAt, hget, ← Except.ok.inj h]
  | error e =>
    rw [hread] at h
    cases e with
    | notFound => rw [bytesAt_of_forall_ne (misses hread), ← Except.ok.inj h]
    | _ => simp at h

/-- Bytes that are found in the document, with a text behind them. -/
def Extends (doc : Document) (t : FileTree) (workingDirectory : Location) (text : String)
    (bytes : ByteArray) : Prop :=
  ∃ found, doc.bytes t workingDirectory = .ok found ∧ bytes = found ++ text.toUTF8

/-- **A text is put behind the bytes that are found, or the tree is left.** -/
theorem extend_cases_files (doc : Document) (t : FileTree) (workingDirectory : Location)
    (text : String) :
    (∃ bytes v, doc.Extends t workingDirectory text bytes ∧
        doc.extend t workingDirectory text = (.ok (), v) ∧ doc.IsWritten t workingDirectory bytes v) ∨
      (∃ e v, doc.extend t workingDirectory text = (.error e, v) ∧
        doc.IsLeft t workingDirectory v) := by
  unfold Document.extend
  cases hbytes : doc.bytes t workingDirectory with
  | error e => exact .inr ⟨e, t, rfl, .refl doc t workingDirectory⟩
  | ok found =>
    rcases doc.store_cases_files t workingDirectory (found ++ text.toUTF8) with ⟨v, hstore, hv⟩ | hfailed
    · exact .inl ⟨_, v, ⟨found, hbytes, rfl⟩, hstore, hv⟩
    · exact .inr hfailed

/-! ## Operations -/

/-- **All or nothing**: an operation puts bytes into the document that are right for its answer, or it
fails and the tree is left. -/
inductive IsAtomic {α : Type} (doc : Document) (t : FileTree) (workingDirectory : Location)
    (writes : α → ByteArray → Prop) : EStateM.Result Fault Workspace α → Prop where
  | written {answer : α} {w : Workspace} {bytes : ByteArray} (right : writes answer bytes)
      (isWritten : doc.IsWritten t workingDirectory bytes w.files) :
      IsAtomic doc t workingDirectory writes (.ok answer w)
  | failed {fault : Fault} {w : Workspace} (left : doc.IsLeft t workingDirectory w.files) :
      IsAtomic doc t workingDirectory writes (.error fault w)

/-- An operation that comes down to putting bytes into the document is all or nothing. -/
theorem isAtomic_of_done {α : Type} {writes : α → ByteArray → Prop} {answer : α}
    (done : Except Fault Unit × FileTree) (w w' : Workspace) :
    (∃ bytes v, writes answer bytes ∧ done = (.ok (), v) ∧ doc.IsWritten t workingDirectory bytes v) ∨
      (∃ e v, done = (.error e, v) ∧ doc.IsLeft t workingDirectory v) →
    doc.IsAtomic t workingDirectory writes
      (match done with
        | (.ok (), files) => .ok answer { w with files := files }
        | (.error e, files) => .error e { w' with files := files }) := by
  rintro (⟨bytes, v, right, rfl, hv⟩ | ⟨e, v, rfl, hv⟩)
  · exact .written right hv
  · exact .failed hv

theorem isAtomic_append (doc : Document) (text : String) (w : Workspace) :
    doc.IsAtomic w.files w.directory (fun _ => doc.Extends w.files w.directory text)
      (doc.append text w) := by
  rw [append_eq]
  exact isAtomic_of_done _ w w (doc.extend_cases_files w.files w.directory text)

/-- A workspace with a file in the root and no directory. -/
def withoutTypes : Workspace :=
  { onlyInRoot none with
    files := ⟨[(["models.d.ts"], .file "keep\n".toUTF8 0o600)]⟩ }

/-- A document on a path that goes up again from a directory that need not be there. -/
def roundabout : Document := ⟨"types/../models.d.ts"⟩

/-- **The bytes of the file are lost** when a text is appended to the document. -/
theorem append_loses_bytes :
    withoutTypes.files.get? (roundabout.place withoutTypes.directory) =
        some (.file "keep\n".toUTF8 0o600) ∧
      ∃ u, roundabout.append "new\n" withoutTypes = .ok () u ∧
        u.files.get? (roundabout.place withoutTypes.directory) =
          some (.file "new\n".toUTF8 0o600) := by
  have hdone : (roundabout.extend withoutTypes.files withoutTypes.directory "new\n").1 = .ok () := by
    decide +kernel
  have hget : (roundabout.extend withoutTypes.files withoutTypes.directory "new\n").2.get?
      (roundabout.place withoutTypes.directory) = some (.file "new\n".toUTF8 0o600) := by
    decide +kernel
  rcases hextend : roundabout.extend withoutTypes.files withoutTypes.directory "new\n" with
    ⟨done, files⟩
  rw [hextend] at hdone hget
  obtain rfl : done = .ok () := hdone
  refine ⟨by decide, { withoutTypes with files := files }, ?_, hget⟩
  rw [append_eq, hextend]

theorem isAtomic_replace (doc : Document) (text : String) (w : Workspace) :
    doc.IsAtomic w.files w.directory (fun _ bytes => bytes = text.toUTF8) (doc.replace text w) := by
  rw [replace_eq]
  refine isAtomic_of_done _ w w ?_
  rcases doc.store_cases_files w.files w.directory text.toUTF8 with ⟨v, hdone⟩ | hfailed
  · exact .inl ⟨_, v, rfl, hdone⟩
  · exact .inr hfailed

end Document

namespace Syncer

variable {s : Syncer} {w : Workspace}

/-- What an operation writes that answers with the text that it appends. -/
def Appends (s : Syncer) (w : Workspace) (answer : String) (bytes : ByteArray) : Prop :=
  s.document.Extends w.files w.directory answer bytes

/-- An operation that comes down to appending the text that it answers with is all or nothing. -/
theorem isAtomic_of_appended {writes : String → Prop} {text : String} (right : writes text)
    (w' w'' : Workspace) :
    s.document.IsAtomic w.files w.directory (fun answer bytes => writes answer ∧ s.Appends w answer bytes)
      (match s.document.extend w.files w.directory text with
        | (.ok (), files) => .ok text { w' with files := files }
        | (.error e, files) => .error e { w'' with files := files }) := by
  refine Document.isAtomic_of_done _ w' w'' ?_
  rcases s.document.extend_cases_files w.files w.directory text with
    ⟨bytes, v, hbytes, hdone⟩ | hfailed
  · exact .inl ⟨bytes, v, ⟨right, hbytes⟩, hdone⟩
  · exact .inr hfailed

theorem isAtomic_generate (s : Syncer) (name : String) (fields : List Field) (w : Workspace) :
    s.document.IsAtomic w.files w.directory
      (fun answer bytes => answer = s.interfaceText name fields ∧ s.Appends w answer bytes)
      (s.generate name fields w) := by
  rw [generate_eq]
  refine isAtomic_of_appended ?_ { w with events := w.events ++ [.generating] ++ [.generated] }
    { w with events := w.events ++ [.generating] }
  rfl

theorem isAtomic_generateKnown (s : Syncer) (name : String) (w : Workspace) :
    s.document.IsAtomic w.files w.directory
      (fun answer bytes => (∃ m, s.model name = .ok m ∧ answer = s.interfaceText m.name m.fields) ∧
        s.Appends w answer bytes) (s.generateKnown name w) := by
  cases hmodel : s.model name with
  | error e =>
    rw [generateKnown, hmodel, Action.bind_of_error (Action.ofExcept_error e w)]
    exact .failed (.refl _ _ _)
  | ok m =>
    rw [generateKnown, hmodel, Action.bind_of_ok (Action.ofExcept_ok m w), generate_eq]
    exact isAtomic_of_appended ⟨m, rfl, rfl⟩
      { w with events := w.events ++ [.generating] ++ [.generated] }
      { w with events := w.events ++ [.generating] }

theorem isAtomic_migrate (s : Syncer) (label : String) (fields : List Field) (w : Workspace) :
    s.document.IsAtomic w.files w.directory
      (fun answer bytes => answer = Definitions.migrationText label fields ∧ s.Appends w answer bytes)
      (s.migrate label fields w) := by
  rw [migrate_eq]
  refine isAtomic_of_appended ?_ { w with events := w.events ++ [.migrating] }
    { w with events := w.events ++ [.migrating] }
  rfl

/-- What a synchronisation does that has nothing to write: it answers so, and the tree is as it was. -/
def IsIdle (w : Workspace) : EStateM.Result Fault Workspace Outcome → Prop
  | .ok answer u => (∀ n, answer ≠ .updated n) ∧ u.files = w.files
  | .error _ _ => False

/-- What a synchronisation writes that answers that it updated the document. -/
def Updates (s : Syncer) (w : Workspace) (name : String) (answer : Outcome) (bytes : ByteArray) : Prop :=
  ∃ n m text, answer = .updated n ∧ s.model name = .ok m ∧
    s.document.bytesAt w.files w.directory = text.toUTF8 ∧ bytes = (reconciled m text).toUTF8

/-- A synchronisation writes only if it has read the text that stands at the place of the document. -/
theorem isAtomic_sync (s : Syncer) (name : String) (w : Workspace) :
    IsIdle w (s.sync name w) ∨
      s.document.IsAtomic w.files w.directory (s.Updates w name) (s.sync name w) := by
  cases known : s.model name with
  | error e =>
    rw [sync_of_unknown known]
    exact .inr (.failed (.refl _ _ _))
  | ok m =>
    cases hread : s.document.text? w.files w.directory with
    | error e =>
      rw [sync_of_unreadable known hread]
      exact .inr (.failed (.refl _ _ _))
    | ok found =>
      cases found with
      | none =>
        rw [sync_of_missing known hread]
        exact .inl ⟨by simp, rfl⟩
      | some text =>
        by_cases hkept : ∀ n, outcomeFor m text ≠ .updated n
        · obtain ⟨events, hsync⟩ := sync_of_settled known hread hkept
          rw [hsync]
          exact .inl ⟨hkept, rfl⟩
        · push Not at hkept
          obtain ⟨n, hupdated⟩ := hkept
          obtain ⟨before, after, hsync⟩ := sync_of_updated known hread hupdated
          obtain ⟨-, mode, hget⟩ := Document.text?_eq_some_iff.1 hread
          have hbytes : s.document.bytesAt w.files w.directory = text.toUTF8 := by
            rw [Document.bytesAt, hget]
          rw [hsync]
          refine .inr (Document.isAtomic_of_done _ { w with events := after }
            { w with events := before } ?_)
          rcases s.document.store_cases_files w.files w.directory (reconciled m text).toUTF8 with
            ⟨v, hdone⟩ | hfailed
          · exact .inl ⟨_, v, ⟨n, m, text, rfl, known, hbytes, rfl⟩, hdone⟩
          · exact .inr hfailed

/-- **Every operation on the document is all or nothing**: it fails and leaves every file as it was, or the
document holds the bytes that were found followed by the text that was appended, or the text that replaced
them, and every other file is as it was.  Only a synchronisation may have nothing to write.  The bytes that
were found are those from before, unless the document was found missing while a file stands at its
place. -/
theorem isAtomic_operations (s : Syncer) (w : Workspace) :
    (∀ text, s.document.IsAtomic w.files w.directory
        (fun _ => s.document.Extends w.files w.directory text) (s.document.append text w)) ∧
      (∀ text, s.document.IsAtomic w.files w.directory (fun _ bytes => bytes = text.toUTF8)
        (s.document.replace text w)) ∧
      (∀ name fields, s.document.IsAtomic w.files w.directory
        (fun answer bytes => answer = s.interfaceText name fields ∧ s.Appends w answer bytes)
        (s.generate name fields w)) ∧
      (∀ name, s.document.IsAtomic w.files w.directory
        (fun answer bytes => (∃ m, s.model name = .ok m ∧ answer = s.interfaceText m.name m.fields) ∧
          s.Appends w answer bytes) (s.generateKnown name w)) ∧
      (∀ label fields, s.document.IsAtomic w.files w.directory
        (fun answer bytes => answer = Definitions.migrationText label fields ∧
          s.Appends w answer bytes) (s.migrate label fields w)) ∧
      (∀ name, IsIdle w (s.sync name w) ∨
        s.document.IsAtomic w.files w.directory (s.Updates w name) (s.sync name w)) ∧
      (s.document.MissesNoFile w.files w.directory → ∀ found,
        s.document.bytes w.files w.directory = .ok found →
          found = s.document.bytesAt w.files w.directory) := by
  refine ⟨fun text => ?_, fun text => ?_, fun name fields => ?_, fun name => ?_, fun label fields => ?_,
    fun name => ?_, fun misses found hfound => ?_⟩
  · exact s.document.isAtomic_append text w
  · exact s.document.isAtomic_replace text w
  · exact s.isAtomic_generate name fields w
  · exact s.isAtomic_generateKnown name w
  · exact s.isAtomic_migrate label fields w
  · exact s.isAtomic_sync name w
  · exact Document.eq_bytesAt_of_missesNoFile misses hfound

/-- The document has a new directory to go into, and the file in the root is not missed. -/
theorem isAtomic_operations_types :
    (⟨"types/models.d.ts"⟩ : Document).IsAtomic Document.withoutTypes.files
        Document.withoutTypes.directory
        (fun _ => (⟨"types/models.d.ts"⟩ : Document).Extends Document.withoutTypes.files
          Document.withoutTypes.directory "new\n")
        ((⟨"types/models.d.ts"⟩ : Document).append "new\n" Document.withoutTypes) ∧
      .empty = (⟨"types/models.d.ts"⟩ : Document).bytesAt Document.withoutTypes.files
        Document.withoutTypes.directory := by
  have hnone : Document.withoutTypes.files.get?
      ((⟨"types/models.d.ts"⟩ : Document).place Document.withoutTypes.directory) = none := by
    decide
  have misses : (⟨"types/models.d.ts"⟩ : Document).MissesNoFile
      Document.withoutTypes.files Document.withoutTypes.directory := by
    intro _ bytes mode hget
    rw [hnone] at hget
    simp at hget
  have hfound : (⟨"types/models.d.ts"⟩ : Document).bytes Document.withoutTypes.files
      Document.withoutTypes.directory = .ok .empty := by
    decide +kernel
  have operations := isAtomic_operations ⟨⟨"types/models.d.ts"⟩, some posts, true⟩
    Document.withoutTypes
  exact ⟨operations.1 "new\n", operations.2.2.2.2.2.2 misses .empty hfound⟩

end Syncer
end InterfaceSync
