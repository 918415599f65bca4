import XdgPortals.Library.Runs
import XdgPortals.Library.History
import XdgPortals.Native.Requests
import XdgPortals.Native.Lifecycle

/-!
# The request tracker as a step system

Godot's thread starts and closes requests; one worker thread dispatches the replies, the Responses
and the name reports, one callback at a time. A step is one critical section. A callback that
takes the lock twice leaves the worker inside it, and steps of the other thread can come before
it resumes. Every event is recorded, the latest first, with the signals it decides.
-/

namespace XdgPortals

/-- Where the worker is inside a callback, with the locals the rest of the callback reads. -/
inductive Worker where
  | idle
  | callStarted (early : Option UnclaimedResponse)
  | requestResponse (delivered : Bool) (response : UnclaimedResponse)
  | portalAppeared (replaced : Bool)
  | portalVanished (wasOwned : Bool)

/-- What decided a signal. -/
inductive Cause where
  | response (path : String) (response : UInt32)
  | callFailed
  | portalLost
  | closeFailed

/-- What a history records. -/
inductive Event where
  | begun (handle context : String)
  | callStarted (handle path : String)
  | callFailed (handle : String) (error : Option GError)
  | received (path : String) (response : UInt32) (results : Dictionary)
  | held (path : String)
  | portalAppeared (old owner : String) (replaced : Bool)
  | portalVanished (old : String)
  | closeSent (handle path : String)
  | closed (handle : String)
  | signal (cause : Cause) (signal : Signal)

/-- The handle, response and results of the `request_completed` an event decides. -/
def Event.completion? : Event → Option (String × Int32 × Dictionary)
  | .signal _ (.requestCompleted h r d) => some (h, r, d)
  | _ => none

/-- The handle an event returns from `begin_request`. -/
def Event.begun? : Event → Option String
  | .begun h _ => some h
  | _ => none

/-- The decided completions, the latest first. -/
def completions (history : List Event) : List (String × Int32 × Dictionary) :=
  history.filterMap Event.completion?

/-- The completions of one handle. -/
def completionsOf (h : String) (history : List Event) : List (String × Int32 × Dictionary) :=
  (completions history).filter fun c => c.1 == h

/-- The handles completed so far. -/
def completed (history : List Event) : List String := (completions history).map Prod.fst

/-- The handles `begin_request` has returned. -/
def begun (history : List Event) : List String := history.filterMap Event.begun?

section Cons

variable (e : Event) (es : List Event)

lemma begun_cons : begun (e :: es) = e.begun?.toList ++ begun es := by
  rw [begun, List.filterMap_cons]
  cases e.begun? <;> rfl

lemma completions_cons : completions (e :: es) = e.completion?.toList ++ completions es := by
  rw [completions, List.filterMap_cons]
  cases e.completion? <;> rfl

lemma completionsOf_cons (h : String) : completionsOf h (e :: es) =
    (e.completion?.toList.filter fun c => c.1 == h) ++ completionsOf h es := by
  rw [completionsOf, completions_cons, List.filter_append]
  rfl

lemma completed_cons :
    completed (e :: es) = (e.completion?.map Prod.fst).toList ++ completed es := by
  rw [completed, completions_cons, List.map_append]
  cases e.completion? <;> rfl

lemma begun_append (es' : List Event) : begun (es ++ es') = begun es ++ begun es' :=
  List.filterMap_append

lemma completions_append (es' : List Event) :
    completions (es ++ es') = completions es ++ completions es' :=
  List.filterMap_append

lemma completed_append (es' : List Event) :
    completed (es ++ es') = completed es ++ completed es' := by
  rw [completed, completions_append, List.map_append]
  rfl

end Cons

lemma mem_begun {h : String} {es : List Event} : h ∈ begun es ↔ ∃ c, .begun h c ∈ es := by
  rw [begun, List.mem_filterMap]
  constructor
  · rintro ⟨e, he, heq⟩
    cases e <;> cases heq
    exact ⟨_, he⟩
  · rintro ⟨c, hc⟩
    exact ⟨_, hc, rfl⟩

/-- The handle was begun at most once. -/
def BegunOnce (h : String) (history : List Event) : Prop := (begun history).count h ≤ 1

instance (h : String) (history : List Event) : Decidable (BegunOnce h history) :=
  inferInstanceAs (Decidable (_ ≤ 1))

lemma begunOnce_of_nodup {es : List Event} (hdistinct : (begun es).Nodup) (h : String) :
    BegunOnce h es :=
  List.nodup_iff_count.mp hdistinct h

lemma BegunOnce.of_append {h : String} {l es : List Event} (honce : BegunOnce h (l ++ es)) :
    BegunOnce h es := by
  rw [BegunOnce, begun_append, List.count_append] at honce
  exact Nat.le_of_add_left_le honce

lemma BegunOnce.not_mem {h c : String} {es : List Event}
    (honce : BegunOnce h (.begun h c :: es)) : h ∉ begun es := by
  rw [BegunOnce, begun_cons, List.count_append] at honce
  have hself : List.count h (Event.begun? (.begun h c)).toList = 1 := List.count_singleton_self
  exact List.count_eq_zero.mp (by omega)

/-- A handle that was begun once was begun in one context. -/
lemma begun_unique {h c c' : String} {es : List Event} (honce : BegunOnce h es)
    (hc : .begun h c ∈ es) (hc' : .begun h c' ∈ es) : c = c' := by
  induction es with
  | nil => cases hc
  | cons e es ih =>
    have hnot : ∀ x, e = .begun h x → ∀ y, .begun h y ∉ es := by
      rintro x rfl y hy
      exact honce.not_mem (mem_begun.mpr ⟨y, hy⟩)
    rcases List.mem_cons.mp hc with heq | hmem
    · rcases List.mem_cons.mp hc' with heq' | hmem'
      · cases heq.trans heq'.symm
        rfl
      · exact absurd hmem' (hnot c heq.symm c')
    · rcases List.mem_cons.mp hc' with heq' | hmem'
      · exact absurd hmem (hnot c' heq'.symm c)
      · exact ih (BegunOnce.of_append (l := [e]) honce) hmem hmem'

/-- The steps: the critical sections, and the rest of the callback the worker is in. -/
inductive Action where
  | beginRequest (random : UInt32) (context : String)
  | callStarted (handle : String) (path : ObjectPath)
  | callFailed (handle : String) (error : Option GError)
  | requestResponse (path : ObjectPath) (response : UInt32) (results : Dictionary)
  | portalAppeared (owner : String)
  | portalVanished
  | resume
  | closeLookup (handle : String)
  | closeConfirmed (handle : String)
  | closeFailed (handle : String) (error : Option GError)

/-- The tracker with its surroundings: the worker's position, the handles whose call has not
returned, and the handles of the `close_request` calls that wait for the portal. -/
structure Tracker where
  native : XdgPortalNative := {}
  worker : Worker := .idle
  inFlight : List String := []
  closing : List String := []
  history : List Event := []

def Worker.isIdle : Worker → Bool
  | .idle => true
  | _     => false

/-- The worker fails the waiting requests next. -/
def Worker.isLosing : Worker → Bool
  | .portalAppeared replaced => replaced
  | .portalVanished wasOwned => wasOwned
  | _ => false

namespace Tracker

/-- Record the signals a step decides, in the order they are emitted. -/
def signalled (cause : Cause) (signals : List Signal) (history : List Event) : List Event :=
  (signals.map (Event.signal cause)).reverse ++ history

/-- Deliver a Response; the flag says whether a request claimed it. -/
def deliver (s : Tracker) (path : String) (response : UInt32) (results : Dictionary) :
    Tracker × Bool :=
  let (native, delivered, signals) := s.native.deliverResponse path response results
  ({ s with
      native := native
      history := signalled (.response path response) signals s.history }, delivered)

def failPending (s : Tracker) (reason : String) : Tracker :=
  let (native, signals) := s.native.failPendingRequests reason
  { s with native := native, history := signalled .portalLost signals s.history }

/-- Hold a Response that nobody claimed. -/
def hold (s : Tracker) (u : UnclaimedResponse) : Tracker :=
  { s with
      native := s.native.holdResponse u
      history := if 0 < s.native.callsInFlight then .held u.path :: s.history else s.history }

/-- The rest of the callback the worker is in. -/
def resume (s : Tracker) : Option Tracker :=
  match s.worker with
  | .idle => none
  | .callStarted none => some { s with worker := .idle }
  | .callStarted (some early) =>
    some { (s.deliver early.path early.response early.results).1 with worker := .idle }
  | .requestResponse true _ => some { s with worker := .idle }
  | .requestResponse false u => some { s.hold u with worker := .idle }
  | .portalAppeared false => some { s with worker := .idle }
  | .portalAppeared true =>
    some { s.failPending XdgPortalNative.replacedReason with worker := .idle }
  | .portalVanished false => some { s with worker := .idle }
  | .portalVanished true =>
    some { s.failPending XdgPortalNative.vanishedReason with worker := .idle }

/-- The signals of a failed `Request.Close`. -/
def closeErrors : Option GError → List Signal
  | none   => []
  | some e => [.portalError "Request.Close" e.message]

/-- One step of a client connected under the unique name `u`. -/
def step (u : UniqueName) (s : Tracker) : Action → Option Tracker
  | .beginRequest random context =>
    let (native, _, handle) := s.native.beginRequest (some u.toString) random context
    some { s with
      native := native
      inFlight := handle :: s.inFlight
      history := .begun handle context :: s.history }
  | .callStarted handle path =>
    if s.worker.isIdle ∧ handle ∈ s.inFlight then
      let (native, early) := s.native.onCallStarted handle path.val
      some { s with
        native := native
        worker := .callStarted early
        inFlight := s.inFlight.erase handle
        history := .callStarted handle path.val :: s.history }
    else none
  | .callFailed handle error =>
    if s.worker.isIdle ∧ handle ∈ s.inFlight then
      let (native, signals) := s.native.onCallFailed handle error
      some { s with
        native := native
        inFlight := s.inFlight.erase handle
        history := signalled .callFailed signals (.callFailed handle error :: s.history) }
    else none
  | .requestResponse path response results =>
    if s.worker.isIdle then
      let s := { s with history := .received path.val response results :: s.history }
      let (s, delivered) := s.deliver path.val response results
      some { s with worker := .requestResponse delivered ⟨path.val, response, results⟩ }
    else none
  | .portalAppeared owner =>
    if s.worker.isIdle then
      let (native, replaced) := s.native.onPortalAppeared owner
      some { s with
        native := native
        worker := .portalAppeared replaced
        history := .portalAppeared s.native.portalOwner owner replaced :: s.history }
    else none
  | .portalVanished =>
    if s.worker.isIdle then
      let (native, wasOwned) := s.native.onPortalVanished
      some { s with
        native := native
        worker := .portalVanished wasOwned
        history := .portalVanished s.native.portalOwner :: s.history }
    else none
  | .resume => s.resume
  | .closeLookup handle =>
    match s.native.closeRequestPath handle with
    | none      => none
    | some path => some { s with
        closing := handle :: s.closing
        history := .closeSent handle path :: s.history }
  | .closeConfirmed handle =>
    if handle ∈ s.closing then
      some { s with
        native := s.native.closeRequestConfirmed handle
        closing := s.closing.erase handle
        history := .closed handle :: s.history }
    else none
  | .closeFailed handle error =>
    if handle ∈ s.closing then
      some { s with
        closing := s.closing.erase handle
        history := signalled .closeFailed (closeErrors error) s.history }
    else none

/-- The tracker of a client connected under the unique name `u`, from its startup on. -/
def machine (u : UniqueName) : Machine Tracker Action where
  init := {}
  step := step u

/-! ### A client for runs on fixed inputs -/

/-- The unique name `:1.42`. -/
def client : UniqueName where
  elements := ["1", "42"]
  ne_nil := by decide
  valid := by
    intro e he
    rcases List.mem_pair.mp he with rfl | rfl
    · exact ⟨by decide, isPathChar_of_all (by decide)⟩
    · exact ⟨by decide, isPathChar_of_all (by decide)⟩

/-- The client's first handle, when 7 is drawn. -/
def firstHandle : ObjectPath where
  val := "/org/freedesktop/portal/desktop/request/1_42/godot_xdg_1_7"
  valid := by decide

/-- Its second handle, when 7 is drawn again. -/
def secondHandle : ObjectPath where
  val := "/org/freedesktop/portal/desktop/request/1_42/godot_xdg_2_7"
  valid := by decide

/-- Another object path. -/
def otherPath : ObjectPath where
  val := "/org/freedesktop/portal/desktop/request/1_42/elsewhere"
  valid := by decide

/-- `G_IO_ERROR_TIMED_OUT`. -/
def timedOut : GError := ⟨.other, "Timeout was reached"⟩

end Tracker

end XdgPortals
