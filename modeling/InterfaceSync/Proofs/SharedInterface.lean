import InterfaceSync.Proofs.Catalogue
import InterfaceSync.Proofs.Naming.VisibleWords
import InterfaceSync.Proofs.Synchronisation
import InterfaceSync.Proofs.Reconcile.Independence

/-!
# The interfaces of two models of a catalogue

A catalogue holds no two models with the same key, and the block of a model is found by the name of its
interface.  Two keys may lead to one interface; then each of the two models is synchronised with the
block of the other (`settles_block_of_other`).  They do not if all the words of the names show in the
names of the interfaces, and for names of ASCII it is known exactly when they do.

With two interfaces a synchronisation with one model leaves the block of the other, as long as no block
begins inside the other one and no line is a heading of both.

* `Reconcile.AreBeside`, `Reconcile.not_inTarget_of_areBeside`: blocks that share no line.
* `Catalogue.interfaces_apart`: all of this for two models of a catalogue.
-/

namespace InterfaceSync

open Text

/-! ## Two blocks side by side -/

namespace Reconcile

variable {interfaceName other : List Char} {list : List Line} {i : ℕ}

/-- Two blocks neither of which begins inside the other one, behind its heading. -/
def AreBeside (interfaceName other : List Char) (list : List Line) : Prop :=
  ∀ a b, IsFirstHeading interfaceName list a → IsFirstHeading other list b → a ≠ b →
    ¬ InTarget other list a ∧ ¬ InTarget interfaceName list b

/-- The first heading lies in the target. -/
theorem IsFirstHeading.inTarget {a : ℕ} (first : IsFirstHeading interfaceName list a) :
    InTarget interfaceName list a := by
  obtain ⟨l, hl, -⟩ := first.1
  refine ⟨a, first, le_rfl, (List.getElem?_eq_some_iff.1 hl).1, fun e he hclose => ?_⟩
  exact absurd hclose.1 (by omega)

/-- **Blocks side by side share no line**, if no line is a heading of both. -/
theorem not_inTarget_of_areBeside (beside : AreBeside interfaceName other list)
    (heading : ∀ l ∈ list, Heading.IsHeading interfaceName l.body → ¬ Heading.IsHeading other l.body)
    (hi : InTarget other list i) : ¬ InTarget interfaceName list i := by
  rintro ⟨a, firstA, hai, -, hopenA⟩
  obtain ⟨b, firstB, hbi, hlength, hopenB⟩ := hi
  rcases Nat.lt_trichotomy a b with hab | rfl | hba
  · -- The other block begins behind the first one, so it would begin inside it.
    exact (beside a b firstA firstB (by omega)).2
      ⟨a, firstA, by omega, by omega, fun e he => hopenA e (by omega)⟩
  · obtain ⟨l, hl, hheading⟩ := firstA.1
    obtain ⟨l', hl', hheading'⟩ := firstB.1
    obtain rfl := Option.some.inj (hl.symm.trans hl')
    exact heading l (List.mem_of_getElem? hl) hheading hheading'
  · exact (beside a b firstA firstB (by omega)).1
      ⟨b, firstB, by omega, by omega, fun e he => hopenB e (by omega)⟩

end Reconcile

/-! ## Headings of solid names -/

namespace Heading

/-- A name without white space and without an opening brace. -/
def IsSolid (name : List Char) : Prop := ∀ c ∈ name, (!isBlank c && c != '\x7b') = true

instance (name : List Char) : Decidable (IsSolid name) :=
  List.decidableBAll (fun c => (!isBlank c && c != '\x7b') = true) name

theorem isNameClass_isSolid : IsNameClass fun c => !isBlank c && c != '\x7b' where
  eq_false_of_isBlank c hblank := by rw [hblank]; rfl
  brace := by decide
  extends_eq_true := List.all_eq_true.1 (by decide)

end Heading

/-! ## Two models of a catalogue -/

namespace Catalogue

variable {c : Catalogue} {m other : Model}

/-- A synchronisation with a model leaves the block of another one, if the two have two interfaces and
lie side by side. -/
theorem lines_after_sync (hinterface : m.interfaceName ≠ other.interfaceName)
    (solid : Heading.IsSolid m.interfaceName.toList)
    (solidOther : Heading.IsSolid other.interfaceName.toList)
    (hextends : ¬ m.interfaceName.toList ++ "extends".toList <+: other.interfaceName.toList)
    (hextends' : ¬ other.interfaceName.toList ++ "extends".toList <+: m.interfaceName.toList)
    {document : Document} {exported : Bool} {w : Workspace} {name text : String}
    (known : c.get name = .ok m) (h : document.HoldsIn w (some text))
    (beside : Reconcile.AreBeside m.interfaceName.toList other.interfaceName.toList
      (lines text.toList)) :
    ∃ after, document.HoldsIn
        (Action.after (Syncer.sync ⟨document, some c, exported⟩ name) w) (some after) ∧
      ∀ i, Reconcile.InTarget other.interfaceName.toList (lines text.toList) i →
        (lines after.toList)[i]? = (lines text.toList)[i]? := by
  have heading : ∀ l ∈ lines text.toList, Heading.IsHeading m.interfaceName.toList l.body →
      ¬ Heading.IsHeading other.interfaceName.toList l.body := by
    intro l _ hheading hheading'
    rcases Heading.eq_or_extends_of_isHeading Heading.isNameClass_isSolid solid solidOther hheading
      hheading' with heq | hprefix | hprefix
    · exact hinterface (String.toList_inj.1 heq)
    · exact hextends hprefix
    · exact hextends' hprefix
  rcases Syncer.sync_cases (s := ⟨document, some c, exported⟩) h name with
    ⟨found, result, u, hknown, hdone, hu⟩ | ⟨e, u, hfailed, hu⟩
  · obtain rfl : found = m := Except.ok.inj (hknown.symm.trans known)
    refine ⟨Syncer.reconciled found text, ?_, fun i hi => ?_⟩
    · rw [Action.after_of_ok hdone]
      exact hu
    · rw [Syncer.reconciled, String.toList_ofList]
      exact Reconcile.getElem?_lines_run_of_not_inTarget found.name found.required
        (Reconcile.not_inTarget_of_areBeside beside heading hi)
  · refine ⟨text, ?_, fun _ _ => rfl⟩
    rw [Action.after_of_error hfailed]
    exact hu

/-- **Two models of a catalogue have two interfaces if their names can be read back from these**, and if
the names are of ASCII they have one interface exactly when the same words of both show.  Two interfaces
that lie side by side have two blocks: a synchronisation with one of the models, under any spelling,
leaves the lines of the other's block. -/
theorem interfaces_apart (hm : m ∈ c.models) (hother : other ∈ c.models) (hne : m ≠ other) :
    (Naming.IsLegible m.name → Naming.IsLegible other.name →
      m.interfaceName ≠ other.interfaceName) ∧
    (IsAsciiLine m.name.toList → IsAsciiLine other.name.toList →
      (m.interfaceName = other.interfaceName ↔
        Naming.visibleWords (Naming.loweredWords m.name.toList) =
          Naming.visibleWords (Naming.loweredWords other.name.toList)) ∧
      (Naming.IsLegible m.name ↔ Naming.AllShow (Naming.loweredWords m.name.toList))) ∧
    (m.interfaceName ≠ other.interfaceName →
      Heading.IsSolid m.interfaceName.toList → Heading.IsSolid other.interfaceName.toList →
      ¬ m.interfaceName.toList ++ "extends".toList <+: other.interfaceName.toList →
      ¬ other.interfaceName.toList ++ "extends".toList <+: m.interfaceName.toList →
      ∀ (document : Document) (exported : Bool) (w : Workspace) (name text : String),
        c.get name = .ok m → document.HoldsIn w (some text) →
        Reconcile.AreBeside m.interfaceName.toList other.interfaceName.toList (lines text.toList) →
        ∃ after, document.HoldsIn
            (Action.after (Syncer.sync ⟨document, some c, exported⟩ name) w) (some after) ∧
          ∀ i, Reconcile.InTarget other.interfaceName.toList (lines text.toList) i →
            (lines after.toList)[i]? = (lines text.toList)[i]?) := by
  refine ⟨fun legible legibleOther heq => ?_, fun hascii hasciiOther => ⟨?_, ?_⟩, ?_⟩
  · exact key_ne hm hother hne (Naming.snake_eq_of_isLegible legible legibleOther heq)
  · exact Naming.pascal_eq_iff hascii hasciiOther
  · exact Naming.isLegible_iff_allShow hascii
  · intro hinterface solid solidOther hextends hextends' document exported w name text known h beside
    exact lines_after_sync hinterface solid solidOther hextends hextends' known h beside

open Syncer (blog blogText remark inTarget_post inTarget_remark)

/-- The interfaces of two models, one behind the other in a document. -/
theorem interfaces_apart_blog :
    post.interfaceName ≠ remark.interfaceName ∧
    ((post.interfaceName = remark.interfaceName ↔
        Naming.visibleWords (Naming.loweredWords post.name.toList) =
          Naming.visibleWords (Naming.loweredWords remark.name.toList)) ∧
      Naming.IsLegible post.name) ∧
    ∃ after, Document.inRoot.HoldsIn
        (Action.after (Syncer.sync ⟨Document.inRoot, some blog, false⟩ "Post")
          (Document.onlyInRoot (some blogText))) (some after) ∧
      ∀ i, Reconcile.InTarget remark.interfaceName.toList
          (lines blogText.toList) i →
        (lines after.toList)[i]? = (lines blogText.toList)[i]? := by
  have hpost : post ∈ blog.models := by decide
  have hremark : remark ∈ blog.models := by decide
  have hshow : Naming.AllShow (Naming.loweredWords post.name.toList) := by
    unfold Naming.AllShow
    decide
  have hlegible : Naming.IsLegible remark.name := by
    unfold Naming.IsLegible
    decide
  have hbeside : Reconcile.AreBeside post.interfaceName.toList
      remark.interfaceName.toList (lines blogText.toList) := by
    intro a b first firstOther _
    have ha := (inTarget_post a).1 first.inTarget
    have hb := (inTarget_remark b).1 firstOther.inTarget
    rw [inTarget_remark, inTarget_post]
    omega
  obtain ⟨hapart, hwords, hsync⟩ := interfaces_apart hpost hremark (by decide)
  obtain ⟨hiff, hiffShow⟩ := hwords (by decide) (by decide)
  have hne := hapart (hiffShow.2 hshow) hlegible
  exact ⟨hne, ⟨hiff, hiffShow.2 hshow⟩,
    hsync hne (by decide) (by decide) (by decide) (by decide) Document.inRoot false _ "Post" _
      (by decide) (Document.holdsIn_onlyInRoot (some blogText)) hbeside⟩

/-! ## Models that share an interface -/

/-- A model with a required field and a name of three words. -/
def itemOneTwo : Model where
  name := "item_1_2"
  fields := [⟨"title", .unspecified, none⟩]
  validations := [⟨.presence, ["title"]⟩]
  associations := []

/-- A model whose name has the same words but for one underscore. -/
def itemTwelve : Model := .named "item_12"

/-- **Two models that are registered one after the other share an interface**, and synchronising the
document with the second one changes the block that was settled for the first one. -/
theorem settles_block_of_other :
    ∃ c, Catalogue.registerAll .empty [itemOneTwo, itemTwelve] = .ok c ∧
      itemOneTwo ∈ c.models ∧ itemTwelve ∈ c.models ∧ itemOneTwo ≠ itemTwelve ∧
      itemOneTwo.interfaceName = itemTwelve.interfaceName ∧
      Syncer.reconciled itemOneTwo "interface Item12 \x7b\n  title: string;\n\x7d\n" =
        "interface Item12 \x7b\n  title: string;\n\x7d\n" ∧
      Syncer.reconciled itemTwelve "interface Item12 \x7b\n  title: string;\n\x7d\n" =
        "interface Item12 \x7b\n  title?: string;\n\x7d\n" :=
  ⟨_, rfl, by decide, by decide, by decide, by decide, by decide, by decide⟩

end Catalogue
end InterfaceSync
