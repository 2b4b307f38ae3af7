import InterfaceSync.Workspace

/-!
# Carrying out operations

An operation that answers hands its answer and its workspace on, and one that fails ends everything.
These two laws take a sequence of operations apart; the small operations are equations.  What an operation
leaves behind (`after`) and what it comes to (`answer`) are looked at apart from each other.
-/

namespace InterfaceSync
namespace Action

variable {α β : Type} {w u : Workspace}

theorem bind_of_ok {x : Action α} {a : α} (h : x w = .ok a u) (f : α → Action β) :
    (x >>= f) w = f a u := by
  show EStateM.bind x f w = f a u
  rw [EStateM.bind, h]

theorem bind_of_error {x : Action α} {e : Fault} (h : x w = .error e u) (f : α → Action β) :
    (x >>= f) w = .error e u := by
  show EStateM.bind x f w = .error e u
  rw [EStateM.bind, h]

theorem map_of_ok {x : Action α} {a : α} (h : x w = .ok a u) (f : α → β) :
    (f <$> x) w = .ok (f a) u := by
  show EStateM.map f x w = .ok (f a) u
  rw [EStateM.map, h]

theorem map_of_error {x : Action α} {e : Fault} (h : x w = .error e u) (f : α → β) :
    (f <$> x) w = .error e u := by
  show EStateM.map f x w = .error e u
  rw [EStateM.map, h]

theorem catch_of_ok {x : Action α} {a : α} (h : x w = .ok a u) (f : Fault → Action α) :
    tryCatch x f w = .ok a u := by
  show EStateM.tryCatch x f w = .ok a u
  delta EStateM.tryCatch
  simp only [h]

/-- A failure is caught in the workspace that it leaves behind. -/
theorem catch_of_error {x : Action α} {e : Fault} (h : x w = .error e u) (f : Fault → Action α) :
    tryCatch x f w = f e u := by
  show EStateM.tryCatch x f w = f e u
  delta EStateM.tryCatch
  simp only [h]
  rfl

/-- The workspace that an operation leaves behind, whether it answers or fails. -/
def after (x : Action α) (w : Workspace) : Workspace :=
  match x w with
  | .ok _ u => u
  | .error _ u => u

theorem after_of_ok {x : Action α} {a : α} (h : x w = .ok a u) : after x w = u := by
  rw [after, h]

theorem after_of_error {x : Action α} {e : Fault} (h : x w = .error e u) : after x w = u := by
  rw [after, h]

/-- What an operation comes to, whatever it leaves behind. -/
def answer (x : Action α) (w : Workspace) : Except Fault α :=
  match x w with
  | .ok a _ => .ok a
  | .error e _ => .error e

theorem answer_of_ok {x : Action α} {a : α} (h : x w = .ok a u) : answer x w = .ok a := by
  rw [answer, h]

theorem answer_of_error {x : Action α} {e : Fault} (h : x w = .error e u) :
    answer x w = .error e := by
  rw [answer, h]

theorem pure_apply (a : α) (w : Workspace) : (pure a : Action α) w = .ok a w := rfl

theorem report_apply (e : Event) (w : Workspace) :
    report e w = .ok () { w with events := w.events ++ [e] } := rfl

theorem look_apply (question : FileTree → Location → α) (w : Workspace) :
    look question w = .ok (question w.files w.directory) w := rfl

theorem setFiles_apply (files : FileTree) (w : Workspace) :
    setFiles files w = .ok () { w with files := files } := rfl

/-- Events are reported in their order. -/
theorem forM_report_apply (list : List Event) (w : Workspace) :
    list.forM report w = .ok () { w with events := w.events ++ list } := by
  induction list generalizing w with
  | nil => rw [List.append_nil]; rfl
  | cons e rest ih =>
    have hcons : (e :: rest).forM report = (report e >>= fun _ => rest.forM report) := rfl
    rw [hcons, bind_of_ok (report_apply e w), ih, List.append_assoc]
    rfl

theorem ofExcept_ok (a : α) (w : Workspace) : ofExcept (.ok a) w = .ok a w := rfl

theorem ofExcept_error (e : Fault) (w : Workspace) :
    (ofExcept (.error e) : Action α) w = .error e w := rfl

/-- An operation that ends with a result, whatever it has done before, comes to that result. -/
theorem answer_of_ofExcept {x : Action α} {result : Except Fault α} (h : x w = ofExcept result u) :
    answer x w = result := by
  rw [answer, h]
  cases result with
  | ok a => rfl
  | error e => rfl

theorem readText_apply (path : String) (w : Workspace) :
    readText path w =
      match w.files.readText w.directory path with
      | .ok text => .ok text w
      | .error e => .error (.io e) w := by
  rw [readText, bind_of_ok (look_apply _ w)]
  cases w.files.readText w.directory path with
  | ok text => rfl
  | error e => rfl

theorem write_apply (path : String) (bytes : ByteArray) (w : Workspace) :
    write path bytes w =
      match w.files.write w.directory path bytes with
      | .ok files => .ok () { w with files := files }
      | .error e => .error (.io e) w := by
  rw [write, bind_of_ok (look_apply _ w)]
  cases w.files.write w.directory path bytes with
  | ok files => rfl
  | error e => rfl

/-- What was made of the directories stays, also if that is not all. -/
theorem makeDirectories_apply (path : String) (w : Workspace) :
    makeDirectories path w =
      match w.files.makeDirectories w.directory path with
      | (.ok (), files) => .ok () { w with files := files }
      | (.error e, files) => .error (.io e) { w with files := files } := by
  rw [makeDirectories, bind_of_ok (look_apply _ w)]
  rcases w.files.makeDirectories w.directory path with ⟨_ | _, files⟩
  · rfl
  · rfl

end Action
end InterfaceSync
