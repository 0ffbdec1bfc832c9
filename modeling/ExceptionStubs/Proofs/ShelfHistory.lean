import ExceptionStubs.Proofs.MemorySink
/-!
# Histories of a shelf

What is streamed to a sink in memory stays with its writer until the writer is finished. So every
action on a shelf either binds one name to its whole text or leaves the shelf as it is, and how a
text is cut into chunks is never seen: the sink decides about the bytes of all chunks together.
-/

namespace ExceptionStubs

theorem fromUTF8?_eq_none_iff {bytes : ByteArray} :
    String.fromUTF8? bytes = none ↔ ¬ bytes.IsValidUTF8 := by
  unfold String.fromUTF8?
  split <;> simp [*]

def joined (chunks : List ByteArray) : ByteArray := chunks.foldl (· ++ ·) .empty

theorem joined_singleton (bytes : ByteArray) : joined [bytes] = bytes := ByteArray.empty_append

/-- A sink over the shelf opens a writer for a valid target that it admits. -/
structure Shelf.Opens (rejectExisting : Bool) (shelf : Shelf) (package name : String) : Prop where
  valid : Target.check package name = .ok ()
  admitted : shelf.admits rejectExisting (JavaName.qualify package name) = true

theorem Shelf.not_opens_iff {rejectExisting : Bool} {shelf : Shelf} {package name : String} :
    ¬ shelf.Opens rejectExisting package name ↔
      (∃ e, Target.check package name = .error e) ∨
        (rejectExisting = true ∧ shelf.contains (JavaName.qualify package name) = true) := by
  have opens : shelf.Opens rejectExisting package name ↔ Target.check package name = .ok () ∧
      shelf.admits rejectExisting (JavaName.qualify package name) = true :=
    ⟨fun h => ⟨h.valid, h.admitted⟩, fun h => ⟨h.1, h.2⟩⟩
  rw [opens, Classical.not_and_iff_not_or_not]
  apply or_congr
  · cases Target.check package name <;> simp
  · simp [admits]

namespace Sink

variable {rejectExisting : Bool} {shelf : Shelf} {package name : String}

/-- Chunks are collected by the writer, and nothing of them is seen on the shelf. -/
theorem writeAll_memory (chunks : List ByteArray) (writer : Shelf.Writer) :
    (memory rejectExisting).writeAll chunks writer shelf =
      (.ok ⟨writer.target, chunks.foldl (· ++ ·) writer.written⟩, shelf) := by
  induction chunks generalizing writer with
  | nil => rfl
  | cons chunk chunks ih => exact ih ⟨writer.target, writer.written ++ chunk⟩

theorem openTarget_memory (h : shelf.Opens rejectExisting package name) :
    (memory rejectExisting).openTarget package name shelf =
      (.ok ⟨JavaName.qualify package name, .empty⟩, shelf) := by
  have admitted := h.admitted
  simp only [Shelf.admits, Bool.not_eq_true'] at admitted
  simp only [memory, h.valid, admitted, Bool.false_eq_true, if_false]

/-- Where no writer is opened nothing happens. -/
theorem stream_of_not_opens (h : ¬ shelf.Opens rejectExisting package name) :
    ∃ e, ∀ chunks finished, (memory rejectExisting).stream package name chunks finished shelf =
      ⟨none, .error e, shelf⟩ := by
  cases valid : Target.check package name with
  | error e => exact ⟨e, fun _ _ => by simp only [stream, memory, valid]⟩
  | ok _ =>
    obtain ⟨e, invalid⟩ | ⟨rejecting, held⟩ := Shelf.not_opens_iff.1 h
    · cases valid.symm.trans invalid
    · exact ⟨_, fun _ _ => by
        simp only [stream, memory, valid, rejecting, held, Bool.and_self, if_true]; rfl⟩

theorem stream_of_dropped (h : shelf.Opens rejectExisting package name)
    (chunks : List ByteArray) :
    (memory rejectExisting).stream package name chunks false shelf = ⟨none, .ok (), shelf⟩ := by
  rw [stream, openTarget_memory h]
  simp only [writeAll_memory]
  rfl

/-- A writer that is finished has the bytes of all chunks together. -/
theorem stream_of_finished (h : shelf.Opens rejectExisting package name)
    (chunks : List ByteArray) :
    (memory rejectExisting).stream package name chunks true shelf =
      let writer := ⟨JavaName.qualify package name, joined chunks⟩
      let (result, state) := (memory rejectExisting).finish writer shelf
      ⟨none, result, state⟩ := by
  rw [stream, openTarget_memory h]
  simp only [writeAll_memory, if_true]
  rfl

theorem stream_of_text (h : shelf.Opens rejectExisting package name) {chunks : List ByteArray}
    {body : String} (text : String.fromUTF8? (joined chunks) = some body) :
    (memory rejectExisting).stream package name chunks true shelf =
      ⟨none, .ok (), shelf.insert (JavaName.qualify package name) body⟩ := by
  rw [stream_of_finished h]
  simp only [memory, text]

theorem stream_of_no_text (h : shelf.Opens rejectExisting package name) {chunks : List ByteArray}
    (bad : String.fromUTF8? (joined chunks) = none) :
    ∃ e, (memory rejectExisting).stream package name chunks true shelf =
      ⟨none, .error e, shelf⟩ := by
  rw [stream_of_finished h]
  simp only [memory, bad]
  exact ⟨_, rfl⟩

/-- How the bytes are divided into chunks makes no difference. -/
theorem stream_joined (rejectExisting : Bool) (shelf : Shelf) (package name : String)
    (chunks : List ByteArray) :
    (memory rejectExisting).stream package name chunks true shelf =
      (memory rejectExisting).stream package name [joined chunks] true shelf := by
  by_cases opens : shelf.Opens rejectExisting package name
  · rw [stream_of_finished opens, stream_of_finished opens, joined_singleton]
  · obtain ⟨e, refused⟩ := stream_of_not_opens opens
    rw [refused, refused]

/-- Neither chunk is a text, as a letter of two bytes is divided between them. -/
example : ((memory false).stream "" "Boom" [⟨#[0xC3]⟩, ⟨#[0xA9]⟩] true .empty).state.toList =
    [("Boom", "é")] := by decide +kernel

end Sink

namespace Shelf

inductive Action where
  | preload (name body : String)
  | deliver (a : Artifact)
  | stream (package name : String) (chunks : List ByteArray) (finished : Bool)

namespace Action

/-- The entry that an action makes unless it fails. -/
def entry? : Action → Option (String × String)
  | .preload name body => some (name, body)
  | .deliver a => some a.entry
  | .stream _ _ _ false => none
  | .stream package name chunks true =>
    (String.fromUTF8? (joined chunks)).map (JavaName.qualify package name, ·)

def isDropped : Action → Bool
  | .stream _ _ _ finished => !finished
  | _ => false

def made? (action : Action) : Except SinkError Unit → Option (String × String)
  | .ok () => action.entry?
  | .error _ => none

theorem entry?_of_isDropped {action : Action} (h : action.isDropped = true) :
    action.entry? = none := by
  cases action with
  | stream package name chunks finished =>
    cases finished with
    | true => cases h
    | false => rfl
  | _ => cases h

end Action

def perform (rejectExisting : Bool) (shelf : Shelf) : Action → Except SinkError Unit × Shelf
  | .preload name body => (.ok (), shelf.insert name body)
  | .deliver a =>
    let delivery := (Sink.memory rejectExisting).deliver a shelf
    (delivery.result, delivery.state)
  | .stream package name chunks finished =>
    let delivery := (Sink.memory rejectExisting).stream package name chunks finished shelf
    (delivery.result, delivery.state)

def performAll (rejectExisting : Bool) (shelf : Shelf) :
    List Action → List (String × String) × Shelf
  | [] => ([], shelf)
  | action :: actions =>
    let (answer, next) := shelf.perform rejectExisting action
    let (entries, last) := next.performAll rejectExisting actions
    ((action.made? answer).toList ++ entries, last)

theorem perform_deliver (rejectExisting : Bool) (shelf : Shelf) (a : Artifact) :
    shelf.perform rejectExisting (.deliver a) =
      shelf.perform rejectExisting (.stream a.package a.name [a.body.toUTF8] true) := rfl

theorem perform_stream_joined (rejectExisting : Bool) (shelf : Shelf) (package name : String)
    (chunks : List ByteArray) :
    shelf.perform rejectExisting (.stream package name chunks true) =
      shelf.perform rejectExisting (.stream package name [joined chunks] true) := by
  rw [perform, Sink.stream_joined, perform]

/-- A finished stream fails unless a writer is opened and its bytes are text. -/
theorem perform_finished (rejectExisting : Bool) (shelf : Shelf) (package name : String)
    (chunks : List ByteArray) :
    (∃ body, shelf.Opens rejectExisting package name ∧
        String.fromUTF8? (joined chunks) = some body ∧
        shelf.perform rejectExisting (.stream package name chunks true) =
          (.ok (), shelf.insert (JavaName.qualify package name) body)) ∨
      ((String.fromUTF8? (joined chunks) = none ∨ ¬ shelf.Opens rejectExisting package name) ∧
        ∃ e, shelf.perform rejectExisting (.stream package name chunks true) =
          (.error e, shelf)) := by
  by_cases opens : shelf.Opens rejectExisting package name
  · cases text : String.fromUTF8? (joined chunks) with
    | some body => exact .inl ⟨body, opens, rfl, by rw [perform, Sink.stream_of_text opens text]⟩
    | none =>
      obtain ⟨e, failed⟩ := Sink.stream_of_no_text opens text
      exact .inr ⟨.inl rfl, e, by rw [perform, failed]⟩
  · obtain ⟨e, refused⟩ := Sink.stream_of_not_opens opens
    exact .inr ⟨.inr opens, e, by rw [perform, refused]⟩

/-- An action makes its entry, or it is a stream that is dropped, or it fails. -/
theorem perform_cases (rejectExisting : Bool) (shelf : Shelf) (action : Action) :
    (∃ name body, action.entry? = some (name, body) ∧
        shelf.perform rejectExisting action = (.ok (), shelf.insert name body)) ∨
      (action.isDropped = true ∧ shelf.perform rejectExisting action = (.ok (), shelf)) ∨
      ∃ e, shelf.perform rejectExisting action = (.error e, shelf) := by
  cases action with
  | preload name body => exact .inl ⟨name, body, rfl, rfl⟩
  | deliver a =>
    rw [perform_deliver]
    obtain ⟨body, -, text, done⟩ | ⟨-, failed⟩ :=
      perform_finished rejectExisting shelf a.package a.name [a.body.toUTF8]
    · rw [joined_singleton, Sink.fromUTF8?_toUTF8] at text
      cases text
      exact .inl ⟨_, a.body, rfl, done⟩
    · exact .inr (.inr failed)
  | stream package name chunks finished =>
    cases finished with
    | true =>
      obtain ⟨body, -, text, done⟩ | ⟨-, failed⟩ :=
        perform_finished rejectExisting shelf package name chunks
      · exact .inl ⟨_, body, by rw [Action.entry?, text, Option.map_some], done⟩
      · exact .inr (.inr failed)
    | false =>
      by_cases opens : shelf.Opens rejectExisting package name
      · exact .inr (.inl ⟨rfl, by rw [perform, Sink.stream_of_dropped opens]⟩)
      · obtain ⟨e, refused⟩ := Sink.stream_of_not_opens opens
        exact .inr (.inr ⟨e, by rw [perform, refused]⟩)

theorem perform_snd (rejectExisting : Bool) (shelf : Shelf) (action : Action) :
    (shelf.perform rejectExisting action).2 =
      shelf.insertAll (action.made? (shelf.perform rejectExisting action).1).toList := by
  obtain ⟨name, body, entry, done⟩ | ⟨dropped, same⟩ | ⟨e, failed⟩ :=
    perform_cases rejectExisting shelf action
  · rw [done, Action.made?, entry]
    rfl
  · rw [same, Action.made?, Action.entry?_of_isDropped dropped]
    rfl
  · rw [failed]
    rfl

/-- Behind actions a shelf has the entries inserted that they made, in order. -/
theorem performAll_snd (rejectExisting : Bool) (shelf : Shelf) (actions : List Action) :
    (shelf.performAll rejectExisting actions).2 =
      shelf.insertAll (shelf.performAll rejectExisting actions).1 := by
  induction actions generalizing shelf with
  | nil => rfl
  | cons action actions ih =>
    simp only [performAll]
    rw [OrderedMap.insertAll_append, ← perform_snd]
    exact ih _

end Shelf

/-- What is done to a shelf is done as a whole or not at all, whatever was done before. An action
binds its name to its whole text, in the old place or behind all others, unless it is a stream that
is dropped or an action that fails, and then the shelf stays as it is. A stream that is finished is
one write of the bytes of its chunks together, so it is a delivery where these are a text. It fails
exactly if they are none, the target is invalid, or the name is held and may not be replaced. -/
theorem shelf_commits_atomically (rejectExisting : Bool) (shelf : Shelf)
    (actions : List Shelf.Action) :
    let before := (shelf.performAll rejectExisting actions).2
    before = shelf.insertAll (shelf.performAll rejectExisting actions).1 ∧
    (∀ action,
      let (answer, after) := before.perform rejectExisting action
      (∃ name body, action.entry? = some (name, body) ∧ answer = .ok () ∧
          before.Binds name body after) ∨
        ((action.isDropped = true ∨ ∃ e, answer = .error e) ∧ after = before)) ∧
    ∀ package name chunks,
      let outcome := before.perform rejectExisting (.stream package name chunks true)
      outcome = before.perform rejectExisting (.stream package name [joined chunks] true) ∧
      (∀ body, joined chunks = body.toUTF8 →
        outcome = before.perform rejectExisting (.deliver ⟨package, name, body⟩)) ∧
      ((∃ e, outcome = (.error e, before)) ↔ ¬ (joined chunks).IsValidUTF8 ∨
        (∃ e, Target.check package name = .error e) ∨
        (rejectExisting = true ∧ before.contains (JavaName.qualify package name) = true)) := by
  intro before
  refine ⟨shelf.performAll_snd rejectExisting actions, fun action => ?_,
    fun package name chunks => ⟨?_, ?_, ?_⟩⟩
  · obtain ⟨key, body, entry, done⟩ | ⟨dropped, same⟩ | ⟨e, failed⟩ :=
      before.perform_cases rejectExisting action
    · rw [done]
      exact .inl ⟨key, body, entry, rfl, before.binds_insert key body⟩
    · rw [same]
      exact .inr ⟨.inl dropped, rfl⟩
    · rw [failed]
      exact .inr ⟨.inr ⟨e, rfl⟩, rfl⟩
  · exact before.perform_stream_joined rejectExisting package name chunks
  · intro body text
    rw [Shelf.perform_deliver, ← text]
    exact before.perform_stream_joined rejectExisting package name chunks
  · rw [← fromUTF8?_eq_none_iff, ← Shelf.not_opens_iff]
    obtain ⟨body, opens, text, done⟩ | ⟨bad, failed⟩ :=
      before.perform_finished rejectExisting package name chunks
    · simp [done, opens, text]
    · exact iff_of_true failed bad

end ExceptionStubs
