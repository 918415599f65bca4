import XdgPortals.Client.Emission
import XdgPortals.Client.Refinement
import XdgPortals.Data.Typing
import XdgPortals.Tracker.Close

/-!
# What the portal gets

The other end of the bus: how a portal reads a call, what it declares, and where it puts the
request a call asks for. The calls of the requests reach it in the order in which the requests were
begun, each of them once, and from each it derives the handle the game has. It has declared
everything it is called with.
-/

namespace XdgPortals

/-! ### The other end -/

/-- `g_variant_lookup` of a string. -/
def lookupString (key : String) : GVariant → Option String
  | .array _ entries =>
    let found := entries.find? fun
      | .dictEntry (.string k) _ => k = key
      | _ => false
    match found with
    | some (.dictEntry _ (.variant (.string value))) => some value
    | _ => none
  | _ => none

/-- Where a portal puts a request, by the sender and the options of the call. -/
def requestPathFor (sender : String) (options : GVariant) : String :=
  let token := (lookupString "handle_token" options).getD "t"
  let escaped := if sender.toList.head? = some ':' then sender.toList.tail else sender.toList
  let escaped := String.ofList (escaped.map fun c => if c = '.' then '_' else c)
  portalObjectPath ++ "/request/" ++ escaped ++ "/" ++ token

/-- The path and the context of the request a call asks for. -/
def Message.request? (sender : String) (m : Message) : Option (String × String) :=
  match m.parameters with
  | .tuple [_, _, options] =>
    if m.interface = ifaceInhibit ∧ m.method = "Inhibit" then
      some (requestPathFor sender options, "Inhibit.Inhibit")
    else if m.interface = ifaceOpenUri ∧ m.method = "OpenURI" then
      some (requestPathFor sender options, "OpenURI.OpenURI")
    else none
  | _ => none

/-- A type `a{sv}`. -/
def GVariantType.options : GVariantType := .array (.dictEntry .string .variant)

/-- The methods a portal declares, with the types of their arguments. -/
def inArguments (interface method : String) : Option (List GVariantType) :=
  [(ifaceGameMode, "QueryStatus", [GVariantType.int32]),
    (ifaceGameMode, "RegisterGame", [.int32]),
    (ifaceGameMode, "UnregisterGame", [.int32]),
    (ifaceInhibit, "Inhibit", [.string, .uint32, .options]),
    (ifaceOpenUri, "OpenURI", [.string, .string, .options]),
    (ifaceOpenUri, "SchemeSupported", [.string, .options]),
    (ifaceNotification, "AddNotification", [.string, .options]),
    (ifaceNotification, "RemoveNotification", [.string]),
    (ifaceRequest, "Close", []),
    (ifaceProperties, "Get", [.string, .string])].findSome? fun entry =>
      if entry.1 = interface ∧ entry.2.1 = method then some entry.2.2 else none

/-- A portal declares the method for the object it is called on, with arguments of these types. -/
structure Message.Understood (m : Message) : Prop where
  path : if m.interface = ifaceRequest then isObjectPath m.path = true
    else m.path = portalObjectPath
  arguments : ∃ types, inArguments m.interface m.method = some types ∧
    m.parameters.HasType (.tuple types)

/-- The calls the client may make. -/
inductive Message.Permitted : Message → Prop where
  | inhibit (parentWindow token reason : String) (flags : Int32)
      (hflags : IsInhibitMask flags.toInt) :
      Permitted (inhibitMessage parentWindow flags.toUInt32 token reason)
  | openUri (call : XdgPortalNative.OpenUriCall) (huri : Accepted call.uri) :
      Permitted (openUriMessage call)
  | schemeSupported (scheme : String) (hscheme : Allowed scheme) :
      Permitted (schemeSupportedMessage scheme)
  | gameMode (method : String)
      (hmethod : method ∈ ["QueryStatus", "RegisterGame", "UnregisterGame"]) (pid : Int32) :
      Permitted (gameModeMessage method pid)
  | addNotification (id title body priority : String) (hid : id ≠ "") :
      Permitted (addNotificationMessage id title body priority)
  | removeNotification (id : String) (hid : id ≠ "") : Permitted (removeNotificationMessage id)
  | property (property : String × String) : Permitted (propertyMessage property)
  | close (path : String) (hpath : isObjectPath path = true) : Permitted (closeMessage path)

/-- Options with values are of type `a{sv}`. -/
lemma hasType_options {entries : List (String × GVariant)}
    (h : ∀ entry ∈ entries, ∃ t, entry.2.HasType t) : (options entries).HasType .options := by
  apply GVariant.HasType.array
  intro v hv
  obtain ⟨entry, hentry, rfl⟩ := List.mem_map.mp hv
  obtain ⟨t, ht⟩ := h entry hentry
  exact .dictEntry rfl (.string _) (.variant ht)

namespace Message

lemma Permitted.understood {m : Message} (h : m.Permitted) : m.Understood := by
  cases h with
  | inhibit parentWindow token reason flags hflags =>
    refine ⟨by simp [inhibitMessage, portalCall, ifaceInhibit, ifaceRequest], _, rfl, ?_⟩
    refine .tuple (.cons (.string _) (.cons (.uint32 _) (.cons (hasType_options ?_) .nil)))
    simp only [List.mem_cons, List.not_mem_nil, or_false]
    rintro entry (rfl | rfl)
    · exact ⟨_, .string _⟩
    · exact ⟨_, .string _⟩
  | openUri call huri =>
    refine ⟨by simp [openUriMessage, portalCall, ifaceOpenUri, ifaceRequest], _, rfl, ?_⟩
    refine .tuple (.cons (.string _) (.cons (.string _) (.cons (hasType_options ?_) .nil)))
    simp only [List.mem_cons, List.not_mem_nil, or_false]
    rintro entry (rfl | rfl)
    · exact ⟨_, .string _⟩
    · exact ⟨_, .boolean _⟩
  | schemeSupported scheme hscheme =>
    refine ⟨by simp [schemeSupportedMessage, portalCall, ifaceOpenUri, ifaceRequest], _, rfl, ?_⟩
    exact .tuple (.cons (.string _) (.cons (hasType_options (by simp)) .nil))
  | gameMode method hmethod pid =>
    refine ⟨by simp [gameModeMessage, portalCall, ifaceGameMode, ifaceRequest], [.int32], ?_, ?_⟩
    · simp only [List.mem_cons, List.not_mem_nil, or_false] at hmethod
      rcases hmethod with rfl | rfl | rfl <;> rfl
    · exact .tuple (.cons (.int32 _) .nil)
  | addNotification id title body priority hid =>
    refine ⟨by simp [addNotificationMessage, portalCall, ifaceNotification, ifaceRequest], _, rfl,
      ?_⟩
    refine .tuple (.cons (.string _) (.cons (hasType_options ?_) .nil))
    intro entry hentry
    have hstring : ∃ value, entry.2 = .string value := by
      split_ifs at hentry
      · obtain rfl := List.mem_singleton.mp hentry
        exact ⟨_, rfl⟩
      · rcases List.mem_pair.mp hentry with rfl | rfl <;> exact ⟨_, rfl⟩
      · rcases List.mem_pair.mp hentry with rfl | rfl <;> exact ⟨_, rfl⟩
      · rcases List.mem_append.mp hentry with hentry | hentry
        · rcases List.mem_pair.mp hentry with rfl | rfl <;> exact ⟨_, rfl⟩
        · obtain rfl := List.mem_singleton.mp hentry
          exact ⟨_, rfl⟩
    obtain ⟨value, hvalue⟩ := hstring
    exact ⟨.string, hvalue ▸ .string value⟩
  | removeNotification id hid =>
    refine ⟨by simp [removeNotificationMessage, portalCall, ifaceNotification, ifaceRequest],
      _, rfl, ?_⟩
    exact .tuple (.cons (.string _) .nil)
  | property property =>
    refine ⟨by simp [propertyMessage, portalCall, ifaceProperties, ifaceRequest], _, rfl, ?_⟩
    exact .tuple (.cons (.string _) (.cons (.string _) .nil))
  | close path hpath => exact ⟨by simpa [closeMessage] using hpath, _, rfl, .tuple .nil⟩

end Message

/-- The paths that replies name are object paths. -/
lemma Tracker.isObjectPath_of_named {u : UniqueName} {s : Tracker}
    (hs : (Tracker.machine u).Reachable s) :
    ∀ handle path, .callStarted handle path ∈ s.history → isObjectPath path = true := by
  induction hs with
  | init =>
    intro handle path hmem
    cases hmem
  | step hr ha ih =>
    intro handle path hmem
    cases Tracker.Rule.of_step ha with
    | callStarted handle' path' hidle hinFlight =>
      rcases List.mem_cons.mp hmem with heq | hmem
      · cases heq
        exact path'.valid
      · exact ih handle path hmem
    | requestResponse path' response results hidle t delivered hdeliver =>
      cases Tracker.Delivered.of_deliver hdeliver <;> exact ih handle path (by simpa using hmem)
    | resumeEarly early hworker t delivered hdeliver =>
      cases Tracker.Delivered.of_deliver hdeliver <;> exact ih handle path (by simpa using hmem)
    | resumeHold response hworker =>
      refine ih handle path ?_
      simp only [Tracker.hold] at hmem
      split_ifs at hmem
      · simpa using hmem
      · exact hmem
    | callFailed => exact ih handle path (by simpa [Tracker.signalled] using hmem)
    | resumeLost =>
      exact ih handle path (by simpa [Tracker.failPending, Tracker.signalled] using hmem)
    | closeFailed => exact ih handle path (by simpa [Tracker.signalled] using hmem)
    | resumeSettled => exact ih handle path hmem
    | _ => exact ih handle path (by simpa using hmem)

namespace Client

variable {u : UniqueName} {s s' : Client} {a : Action}

/-! ### What is sent -/

def Event.sent? : Event → Option Message
  | .sent message => some message
  | _ => none

/-- The calls that have been sent, the latest first. -/
def sent (history : List Event) : List Message := history.filterMap Event.sent?

/-- The paths of the requests the portal has been asked for, with their contexts. -/
def sentRequests (u : UniqueName) (history : List Event) : List (String × String) :=
  (sent history).filterMap (Message.request? u.toString)

def Event.begun? : Event → Option (String × String)
  | .request (.begun handle context) => some (handle, context)
  | _ => none

/-- The handles that have been returned, with their contexts. -/
def begunRequests (history : List Event) : List (String × String) := history.filterMap Event.begun?

/-- The calls a task makes. -/
def Task.messages : Task → List Message
  | .call _ message => [message]
  | .reads _ properties => properties.map propertyMessage
  | .refreshPowerSaver => [propertyMessage (ifacePowerProfileMonitor, propPowerSaverEnabled)]

/-- The requests the tasks that wait are going to ask for. -/
def taskRequests (u : UniqueName) (tasks : List Task) : List (String × String) :=
  (tasks.flatMap Task.messages).filterMap (Message.request? u.toString)

section Lists

variable (es es' : List Event)

lemma sent_append : sent (es ++ es') = sent es ++ sent es' := List.filterMap_append

lemma begunRequests_append :
    begunRequests (es ++ es') = begunRequests es ++ begunRequests es' :=
  List.filterMap_append

lemma taskRequests_append (tasks tasks' : List Task) :
    taskRequests u (tasks ++ tasks') = taskRequests u tasks ++ taskRequests u tasks' := by
  rw [taskRequests, List.flatMap_append, List.filterMap_append]
  rfl

lemma sent_map (messages : List Message) : sent (messages.map Event.sent) = messages := by
  rw [sent, List.filterMap_map]
  exact (congrFun List.filterMap_eq_map messages).trans (List.map_id messages)

end Lists

/-- The portal reads the handle and the context out of the call. -/
lemma request?_of_asks {native : XdgPortalNative} {random : UInt32} {token handle context : String}
    {message : Message} (hasks : Asks token context message)
    (hbegin : s.native.beginRequest (some u.toString) random context = (native, token, handle)) :
    message.request? u.toString = some (handle, context) := by
  rw [XdgPortalNative.beginRequest, if_neg u.sanitized_ne_empty] at hbegin
  cases hbegin
  cases hasks <;> rfl

lemma permitted_of_asks {token context : String} {message : Message}
    (hasks : Asks token context message) : message.Permitted := by
  cases hasks with
  | inhibit parentWindow reason flags hflags =>
    exact .inhibit parentWindow token reason flags hflags
  | openUri parentWindow uri ask huri => exact .openUri ⟨parentWindow, uri, token, ask⟩ huri

/-- A call that is permitted, and asks for no request. -/
def Plain (u : UniqueName) (m : Message) : Prop :=
  m.Permitted ∧ m.request? u.toString = none

lemma plain_property (property : String × String) : Plain u (propertyMessage property) :=
  ⟨.property property, rfl⟩

lemma callPortalSync_message {α : Type} (message : Message) (context : String)
    (reply : CallReply α) :
    (XdgPortalNative.callPortalSync true message context reply).2.2 = some message := by
  simp only [XdgPortalNative.callPortalSync, Bool.not_true, Bool.false_eq_true, if_false]
  split <;> rfl

lemma plain_gameMode (method : String)
    (hmethod : method ∈ ["QueryStatus", "RegisterGame", "UnregisterGame"]) (pid : Int32)
    (reply : CallReply Int32) :
    ∀ m ∈ (XdgPortalNative.gameModeCall true method pid reply).2.2, Plain u m := by
  intro m hm
  have heq := callPortalSync_message (gameModeMessage method pid) ("GameMode." ++ method) reply
  obtain rfl := Option.some.inj (heq.symm.trans hm)
  exact ⟨.gameMode method hmethod pid, rfl⟩

/-- The calls that wait for their reply. -/
lemma Sync.plain {signals : List Signal} {message : Option Message} (h : Sync u a signals message) :
    ∀ m ∈ message, Plain u m := by
  cases h with
  | gameModeQueryStatus pid reply => exact plain_gameMode "QueryStatus" (by simp) pid reply
  | gameModeRegister pid reply => exact plain_gameMode "RegisterGame" (by simp) pid reply
  | gameModeUnregister pid reply => exact plain_gameMode "UnregisterGame" (by simp) pid reply
  | schemeSupported version reply scheme =>
    intro m hm
    have hmessage := callPortalSync_message (schemeSupportedMessage scheme)
      "OpenURI.SchemeSupported" reply
    simp only [XdgPortalNative.schemeSupportedCall, Option.isSome_some, Option.mem_def] at hm
    split_ifs at hm with hinvalid hfile hversion
    have hallowed : Allowed scheme :=
      XdgPortalNative.allowed_iff.mpr ⟨by simpa using hinvalid, hfile⟩
    have hsent : some (schemeSupportedMessage scheme) = some m := by
      split at hm
      · exact hmessage.symm.trans hm
      · exact hmessage.symm.trans hm
    obtain rfl := Option.some.inj hsent
    exact ⟨.schemeSupported scheme hallowed, rfl⟩
  | addNotification id title body priority reply =>
    intro m hm
    by_cases hid : id.isEmpty = true
    · simp [XdgPortalNative.addNotification, hid] at hm
    · have hmessage := callPortalSync_message (addNotificationMessage id title body priority)
        "Notification.AddNotification" reply
      simp only [XdgPortalNative.addNotification, hid, Bool.not_true, Bool.or_self,
        Bool.false_eq_true, if_false] at hm
      obtain rfl := Option.some.inj (hmessage.symm.trans hm)
      exact ⟨.addNotification id title body priority (by simpa using hid), rfl⟩
  | removeNotification id reply =>
    intro m hm
    by_cases hid : id.isEmpty = true
    · simp [XdgPortalNative.removeNotification, hid] at hm
    · have hmessage := callPortalSync_message (removeNotificationMessage id)
        "Notification.RemoveNotification" reply
      simp only [XdgPortalNative.removeNotification, hid, Bool.not_true, Bool.or_self,
        Bool.false_eq_true, if_false] at hm
      obtain rfl := Option.some.inj (hmessage.symm.trans hm)
      exact ⟨.removeNotification id (by simpa using hid), rfl⟩

/-! ### What a step sends -/

/-- The effects of a step on what is sent. -/
inductive Traffic (u : UniqueName) (s s' : Client) : Prop where
  | begin (handle context : String) (message : Message) (hpermitted : message.Permitted)
      (hrequest : message.request? u.toString = some (handle, context))
      (hbegun : begunRequests s'.history = (handle, context) :: begunRequests s.history)
      (hsent : sent s'.history = sent s.history)
      (htasks : s'.tasks = s.tasks ++ [.call handle message])
      (hcancelled : s'.cancelled = s.cancelled)
  | run (task : Task) (htasks : s.tasks = task :: s'.tasks)
      (hsent : sent s'.history = (if s.cancelled then [] else task.messages).reverse ++
        sent s.history)
      (hbegun : begunRequests s'.history = begunRequests s.history)
      (hcancelled : s'.cancelled = s.cancelled)
  | send (messages : List Message) (hplain : ∀ m ∈ messages, Plain u m)
      (hsent : sent s'.history = messages ++ sent s.history)
      (tasks : List Task) (htasks : s'.tasks = s.tasks ++ tasks)
      (hplain' : ∀ m ∈ tasks.flatMap Task.messages, Plain u m)
      (hbegun : begunRequests s'.history = begunRequests s.history)
      (hcancelled : s.cancelled = true → s'.cancelled = true)
  | clear (hstage : s.stage = .joined) (htasks : s'.tasks = [])
      (hsent : sent s'.history = sent s.history)
      (hbegun : begunRequests s'.history = begunRequests s.history)
      (hcancelled : s'.cancelled = s.cancelled)

namespace Traffic

/-- Nothing is begun or sent. -/
lemma of_same (hsent : sent s'.history = sent s.history)
    (hbegun : begunRequests s'.history = begunRequests s.history) (htasks : s'.tasks = s.tasks)
    (hcancelled : s.cancelled = true → s'.cancelled = true) : Traffic u s s' :=
  .send [] (by simp) hsent [] (by simpa using htasks) (by simp) hbegun hcancelled

/-- What is recorded tells of no call. -/
lemma of_record (es : List Event) (hhistory : s'.history = es ++ s.history)
    (hquiet : ∀ e ∈ es, e.sent? = none ∧ e.begun? = none) (htasks : s'.tasks = s.tasks)
    (hcancelled : s.cancelled = true → s'.cancelled = true) : Traffic u s s' := by
  refine of_same ?_ ?_ htasks hcancelled
  · rw [hhistory, sent_append, sent, List.filterMap_eq_nil_iff.mpr fun e he => (hquiet e he).1]
    rfl
  · rw [hhistory, begunRequests_append, begunRequests,
      List.filterMap_eq_nil_iff.mpr fun e he => (hquiet e he).2]
    rfl

/-- Tasks are posted that ask for no request. -/
lemma of_post (task : Task) (hhistory : s'.history = s.history)
    (htasks : s'.tasks = s.tasks ++ [task]) (hplain : ∀ m ∈ task.messages, Plain u m)
    (hcancelled : s'.cancelled = s.cancelled) : Traffic u s s' := by
  refine .send [] (by simp) (by rw [hhistory]; rfl) [task] htasks (by simpa using hplain)
    (by rw [hhistory]) fun h => hcancelled.trans h

end Traffic

/-- Events that tell of no call. -/
lemma sent_of_forall {es : List Event} (h : ∀ e ∈ es, e.sent? = none) : sent es = [] :=
  List.filterMap_eq_nil_iff.mpr h

lemma begunRequests_of_forall {es : List Event} (h : ∀ e ∈ es, e.begun? = none) :
    begunRequests es = [] :=
  List.filterMap_eq_nil_iff.mpr h

/-- What Godot's thread emits. -/
lemma sent_emit (s : Client) (signals : List Signal) :
    sent (s.emit signals).history = sent s.history ∧
      begunRequests (s.emit signals).history = begunRequests s.history := by
  rw [emit_eq]
  have hnone : ∀ e ∈ (if s.shuttingDown then []
      else signals.map fun signal => Event.handed false (.signal signal)).reverse,
      e.sent? = none ∧ e.begun? = none := by
    intro e he
    split_ifs at he
    · cases he
    · obtain ⟨signal, -, rfl⟩ := List.mem_map.mp (List.mem_reverse.mp he)
      exact ⟨rfl, rfl⟩
  constructor
  · show sent (_ ++ s.history) = _
    rw [sent_append, sent_of_forall fun e he => (hnone e he).1]
    rfl
  · show begunRequests (_ ++ s.history) = _
    rw [begunRequests_append, begunRequests_of_forall fun e he => (hnone e he).2]
    rfl

lemma sent_send (s : Client) (messages : List Message) :
    sent (s.send messages).history =
        (if s.cancelled then [] else messages).reverse ++ sent s.history ∧
      begunRequests (s.send messages).history = begunRequests s.history := by
  rw [send_eq]
  constructor
  · show sent (_ ++ s.history) = _
    rw [sent_append]
    split_ifs
    · rfl
    · rw [← List.map_reverse, sent_map]
  · show begunRequests (_ ++ s.history) = _
    rw [begunRequests_append, begunRequests_of_forall]
    · rfl
    · intro e he
      split_ifs at he
      · cases he
      · obtain ⟨message, -, rfl⟩ := List.mem_map.mp (List.mem_reverse.mp he)
        rfl

lemma quiet_applied (onWorker : Bool) (value : Option Bool) (event : Bool → Discovery.Event)
    (signals : List Signal) :
    ∀ e ∈ ((value.map fun v => Event.discovery onWorker (event v)).toList ++
      signals.map fun signal => Event.discovery onWorker (.signal signal)).reverse,
      e.sent? = none ∧ e.begun? = none := by
  intro e he
  rcases List.mem_append.mp (List.mem_reverse.mp he) with he | he
  · obtain ⟨v, -, rfl⟩ := Option.mem_map.mp (Option.mem_toList.mp he)
    exact ⟨rfl, rfl⟩
  · obtain ⟨signal, -, rfl⟩ := List.mem_map.mp he
    exact ⟨rfl, rfl⟩

lemma quiet_signals (cause : Cause) (signals : List Signal) :
    ∀ e ∈ (signals.map fun signal => Event.request (.signal cause signal)).reverse,
      e.sent? = none ∧ e.begun? = none := by
  intro e he
  obtain ⟨signal, -, rfl⟩ := List.mem_map.mp (List.mem_reverse.mp he)
  exact ⟨rfl, rfl⟩

/-- A task makes its calls, which a cancelled cancellable prevents. -/
lemma sent_runTask (s : Client) (task : Task) :
    sent (s.runTask task).history =
        (if s.cancelled then [] else task.messages).reverse ++ sent s.history ∧
      begunRequests (s.runTask task).history = begunRequests s.history ∧
      (s.runTask task).tasks = s.tasks := by
  cases task with
  | call handle message =>
    refine ⟨(sent_send _ _).1, (sent_send _ _).2, ?_⟩
    rw [runTask, send_eq]
    rfl
  | reads reader properties =>
    refine ⟨(sent_send _ _).1, (sent_send _ _).2, ?_⟩
    rw [runTask, send_eq]
    rfl
  | refreshPowerSaver =>
    refine ⟨(sent_send _ _).1, (sent_send _ _).2, ?_⟩
    rw [runTask, refreshPowerSaver, send_eq]
    rfl

/-- Every step has one of the effects. -/
theorem Rule.traffic (h : Rule u s a s')
    (hpaths : s.isAlive = true → ∀ handle path, s.native.closeRequestPath handle = some path →
      isObjectPath path = true) : Traffic u s s' := by
  cases h with
  | construct hnew =>
    refine .of_post (.reads .constructor constructorProperties) rfl rfl ?_ rfl
    intro m hm
    obtain ⟨property, -, rfl⟩ := List.mem_map.mp hm
    exact plain_property property
  | constructedUnknown r hread hphase hnot hknown =>
    refine .of_post .refreshPowerSaver rfl rfl ?_ rfl
    intro m hm
    obtain rfl := List.mem_singleton.mp hm
    exact plain_property _
  | readVersions call interfaces halive hnew hmissing =>
    refine .of_post (.reads (.versions call) _) rfl rfl ?_ rfl
    intro m hm
    obtain ⟨property, -, rfl⟩ := List.mem_map.mp hm
    exact plain_property property
  | seed r hread values definitive hphase =>
    exact .of_record _ rfl (quiet_applied false _ .seeded _) rfl id
  | announce hannouncing =>
    obtain ⟨hsent, hbegun⟩ := sent_emit { s with announcing := [] } s.announcing
    exact .of_same hsent hbegun (by rw [emit_eq]; rfl) (by rw [emit_eq]; exact id)
  | refused _ context message halive hstarts =>
    obtain ⟨hsent, hbegun⟩ := sent_emit s [.portalError context message]
    exact .of_same hsent hbegun (by rw [emit_eq]; rfl) (by rw [emit_eq]; exact id)
  | requested _ context message halive native token handle hbegin hasks hstarts =>
    exact .begin handle context message (permitted_of_asks hasks) (request?_of_asks hasks hbegin)
      rfl rfl rfl rfl
  | closeLookup handle path halive hpath =>
    obtain ⟨hsent, hbegun⟩ := sent_send ({ s with closing := handle :: s.closing }.record
      [.request (.closeSent handle path)]) [closeMessage path]
    refine .send _ ?_ hsent [] (by rw [send_eq]; simp [record]) (by simp) hbegun
      (by rw [send_eq]; exact id)
    intro m hm
    split_ifs at hm
    · cases hm
    · obtain rfl := List.mem_singleton.mp hm
      exact ⟨.close path (hpaths halive handle path hpath), rfl⟩
  | closeFailed handle error hmem =>
    obtain ⟨hsent, hbegun⟩ := sent_emit ({ s with closing := s.closing.erase handle }.record
      ((Tracker.closeErrors error).map fun signal => .request (.signal .closeFailed signal)))
      (Tracker.closeErrors error)
    have hquiet := quiet_signals .closeFailed (Tracker.closeErrors error)
    refine .of_same (hsent.trans ?_) (hbegun.trans ?_) (by rw [emit_eq]; rfl)
      (by rw [emit_eq]; exact id)
    · show sent (_ ++ s.history) = _
      rw [sent_append, sent_of_forall fun e he => (hquiet e he).1]
      rfl
    · show begunRequests (_ ++ s.history) = _
      rw [begunRequests_append, begunRequests_of_forall fun e he => (hquiet e he).2]
      rfl
  | sync _ signals message halive hsync =>
    obtain ⟨hsent, hbegun⟩ := sent_send s message.toList
    obtain ⟨hsent', hbegun'⟩ := sent_emit (s.send message.toList) signals
    refine .send _ ?_ (hsent'.trans hsent) [] ?_ (by simp) (hbegun'.trans hbegun) ?_
    · intro m hm
      split_ifs at hm
      · cases hm
      · exact hsync.plain m (Option.mem_toList.mp (List.mem_reverse.mp hm))
    · rw [callSync, emit_eq, send_eq]
      simp [record]
    · rw [callSync, emit_eq, send_eq]
      exact id
  | clear hstage => exact .clear hstage rfl rfl rfl rfl
  | cancel hdown hnot => exact .of_same rfl rfl rfl fun _ => rfl
  | runTask task tasks hready htasks =>
    obtain ⟨hsent, hbegun, hrest⟩ := sent_runTask { s with tasks := tasks } task
    exact .run task (by rw [htasks, hrest]) hsent hbegun (cancelled_runTask ..)
  | callFailed handle error hready hmem =>
    refine .of_record (List.reverse (_ :: _)) rfl ?_ rfl id
    intro e he
    rw [List.reverse_cons] at he
    rcases List.mem_append.mp he with he | he
    · exact quiet_signals .callFailed _ e he
    · obtain rfl := List.mem_singleton.mp he
      exact ⟨rfl, rfl⟩
  | powerSaverRead reply hready hpos hdown =>
    let signals := (s.native.onPowerSaverRead reply).2
    let events :=
      ((powerSaverOf (replyValue reply)).map fun v => Event.discovery true (.reported v)).toList ++
        signals.map fun signal => Event.discovery true (.signal signal)
    refine .of_record (events.reverse ++ [.refreshed (powerSaverOf (replyValue reply))]) ?_ ?_ rfl
      id
    · exact (List.append_assoc _ _ s.history).symm
    · intro e he
      rcases List.mem_append.mp he with he | he
      · exact quiet_applied true _ .reported signals e he
      · obtain rfl := List.mem_singleton.mp he
        exact ⟨rfl, rfl⟩
  | requestResponse path parameters response results hlistens hdown hparameters =>
    let signals := (s.native.deliverResponse path.val response results).2.2
    refine .of_record ((signals.map fun signal =>
        Event.request (.signal (.response path.val response) signal)).reverse ++
      [.request (.received path.val response results)]) ?_ ?_ rfl id
    · exact (List.append_assoc _ _ s.history).symm
    · intro e he
      rcases List.mem_append.mp he with he | he
      · exact quiet_signals _ _ e he
      · obtain rfl := List.mem_singleton.mp he
        exact ⟨rfl, rfl⟩
  | propertiesChanged parameters hlistens hdown =>
    exact .of_record _ rfl (quiet_applied true _ .reported _) rfl id
  | resumeEarly early hquiet hworker => exact .of_record _ rfl (quiet_signals _ _) rfl id
  | resumeHold response hquiet hworker =>
    refine .of_record (List.reverse (if 0 < s.native.callsInFlight
      then [.request (.held response.path)] else [])) rfl ?_ rfl id
    intro e he
    split_ifs at he
    · obtain rfl := List.mem_singleton.mp he
      exact ⟨rfl, rfl⟩
    · cases he
  | resumeReplaced hquiet hworker => exact .of_record _ rfl (quiet_signals _ _) rfl id
  | resumeVanished hquiet hworker => exact .of_record _ rfl (quiet_signals _ _) rfl id
  | refresh hquiet hdue =>
    obtain ⟨hsent, hbegun, htasks⟩ :=
      sent_runTask { s with refreshDue := false } .refreshPowerSaver
    refine .send _ ?_ hsent [] (htasks.trans (List.append_nil _).symm) (by simp) hbegun ?_
    · intro m hm
      split_ifs at hm
      · cases hm
      · obtain rfl := List.mem_singleton.mp (List.mem_reverse.mp hm)
        exact plain_property _
    · exact fun hcancelled => (cancelled_refreshPowerSaver _).trans hcancelled
  | closeConfirmed | shutDown | versionsCached | commit | callStarted | answered | refreshedLate
      | actionInvoked | portalAppeared | portalVanished | post =>
    exact .of_record [_] rfl (by simp [Event.sent?, Event.begun?]) rfl id
  | _ => exact .of_same rfl rfl rfl id

/-! ### In order -/

/-- The calls that have been sent and those that wait ask for the requests that were begun, in
their order. Everything sent is permitted, and so are the calls that wait. -/
structure Forwarded (u : UniqueName) (s : Client) : Prop where
  before : s.cancelled = false →
    begunRequests s.history = (taskRequests u s.tasks).reverse ++ sentRequests u s.history
  suffix : sentRequests u s.history <:+ begunRequests s.history
  permitted : ∀ m ∈ sent s.history, m.Permitted
  waiting : ∀ m ∈ s.tasks.flatMap Task.messages, m.Permitted

namespace Forwarded

lemma init : Forwarded u {} := ⟨fun _ => rfl, List.suffix_refl _, by simp [sent], by simp⟩

lemma requests_of_plain {messages : List Message} (hplain : ∀ m ∈ messages, Plain u m) :
    messages.filterMap (Message.request? u.toString) = [] :=
  List.filterMap_eq_nil_iff.mpr fun m hm => (hplain m hm).2

lemma step (h : Forwarded u s) (hends : Ends s) (ht : Traffic u s s') : Forwarded u s' := by
  cases ht with
  | begin handle context message hpermitted hrequest hbegun hsent htasks hcancelled =>
    have hrequests : taskRequests u s'.tasks = taskRequests u s.tasks ++ [(handle, context)] := by
      rw [htasks, taskRequests_append]
      simp [taskRequests, Task.messages, hrequest]
    constructor
    · intro hnot
      rw [hbegun, hrequests, sentRequests, hsent, List.reverse_append, List.append_assoc,
        h.before (hcancelled ▸ hnot)]
      rfl
    · rw [hbegun, sentRequests, hsent]
      exact h.suffix.trans (List.suffix_cons ..)
    · rw [hsent]
      exact h.permitted
    · rw [htasks, List.flatMap_append]
      intro m hm
      rcases List.mem_append.mp hm with hm | hm
      · exact h.waiting m hm
      · obtain rfl : m = message := by simpa [Task.messages] using hm
        exact hpermitted
  | run task htasks hsent hbegun hcancelled =>
    have hwaiting : ∀ m ∈ task.messages ++ s'.tasks.flatMap Task.messages, m.Permitted := by
      have hall := h.waiting
      rw [htasks, List.flatMap_cons] at hall
      exact hall
    cases hc : s.cancelled with
    | false =>
      have hrequests : sentRequests u s'.history =
          (task.messages.filterMap (Message.request? u.toString)).reverse ++
            sentRequests u s.history := by
        rw [sentRequests, hsent, hc, List.filterMap_append, List.filterMap_reverse]
        rfl
      have hbefore : begunRequests s'.history =
          (taskRequests u s'.tasks).reverse ++ sentRequests u s'.history := by
        rw [hrequests, hbegun, h.before hc, htasks, taskRequests, List.flatMap_cons,
          List.filterMap_append, List.reverse_append, List.append_assoc]
        rfl
      refine ⟨fun _ => hbefore, hbefore ▸ List.suffix_append .., ?_, ?_⟩
      · rw [hsent, hc]
        intro m hm
        rcases List.mem_append.mp hm with hm | hm
        · exact hwaiting m (List.mem_append_left _ (List.mem_reverse.mp hm))
        · exact h.permitted m hm
      · exact fun m hm => hwaiting m (List.mem_append_right _ hm)
    | true =>
      have hsame : sent s'.history = sent s.history := by
        rw [hsent, hc]
        rfl
      refine ⟨fun hnot => ?_, ?_, ?_, fun m hm => hwaiting m (List.mem_append_right _ hm)⟩
      · rw [hcancelled, hc] at hnot
        cases hnot
      · rw [sentRequests, hsame, hbegun]
        exact h.suffix
      · rw [hsame]
        exact h.permitted
  | send messages hplain hsent tasks htasks hplain' hbegun hcancelled =>
    have hrequests : sentRequests u s'.history = sentRequests u s.history := by
      rw [sentRequests, hsent, List.filterMap_append, requests_of_plain hplain]
      rfl
    have hwaiting : taskRequests u s'.tasks = taskRequests u s.tasks := by
      rw [htasks, taskRequests_append, taskRequests, taskRequests, requests_of_plain hplain',
        List.append_nil]
    constructor
    · intro hnot
      have hbefore : s.cancelled = false := by
        by_contra hc
        rw [hcancelled (by simpa using hc)] at hnot
        cases hnot
      rw [hrequests, hwaiting, hbegun]
      exact h.before hbefore
    · rw [hrequests, hbegun]
      exact h.suffix
    · rw [hsent]
      intro m hm
      rcases List.mem_append.mp hm with hm | hm
      · exact (hplain m hm).1
      · exact h.permitted m hm
    · rw [htasks, List.flatMap_append]
      intro m hm
      rcases List.mem_append.mp hm with hm | hm
      · exact h.waiting m hm
      · exact (hplain' m hm).1
  | clear hstage htasks hsent hbegun hcancelled =>
    constructor
    · intro hnot
      rw [hcancelled, (hends.joined (.inl hstage)).cancelled] at hnot
      cases hnot
    · rw [sentRequests, hsent, hbegun]
      exact h.suffix
    · rw [hsent]
      exact h.permitted
    · rw [htasks]
      simp

end Forwarded

/-- The path a request is closed at is an object path. -/
lemma isObjectPath_of_closeRequestPath (hs : (machine u).Reachable s) (halive : s.isAlive = true)
    {handle path : String} (hpath : s.native.closeRequestPath handle = some path) :
    isObjectPath path = true := by
  have hstage : s.stage ≠ .cleared := by
    intro hcleared
    exact ((ends_of_reachable hs).joined (.inr hcleared)).not_isAlive halive
  have htracker := reachable_tracker hs hstage
  rw [XdgPortalNative.closeRequestPath] at hpath
  split_ifs at hpath with hguard
  rw [not_or, not_not, not_not] at hguard
  split at hpath
  · next it hit =>
    cases hpath
    obtain ⟨hbegun, hself | hnamed⟩ := ((Tracker.tabled_of_reachable htracker).record handle it
      hit).path
    · rw [hself]
      exact Tracker.isObjectPath_of_begun htracker hbegun
    · exact Tracker.isObjectPath_of_named htracker handle it.path hnamed
  · cases hpath
    exact hguard.2

theorem forwarded_of_reachable (hs : (machine u).Reachable s) : Forwarded u s := by
  induction hs with
  | init => exact .init
  | step hr ha ih =>
    exact ih.step (ends_of_reachable hr)
      ((Rule.of_step ha).traffic fun halive _ _ => isObjectPath_of_closeRequestPath hr halive)

/-- The portal is asked for the requests in the order in which they were begun, for each of them
once, and it puts them where their handles say. Until the client cancels its calls, those it has
not been asked for are on their way. -/
theorem requests_sent_in_order (hs : (machine u).Reachable s) :
    sentRequests u s.history <:+ begunRequests s.history ∧
      (s.cancelled = false → begunRequests s.history =
        (taskRequests u s.tasks).reverse ++ sentRequests u s.history) :=
  ⟨(forwarded_of_reachable hs).suffix, (forwarded_of_reachable hs).before⟩

/-- Every call that is sent may be made, and the portal declares it with arguments of its types. -/
theorem sent_understood (hs : (machine u).Reachable s) :
    ∀ message, .sent message ∈ s.history → message.Permitted ∧ message.Understood := by
  intro message hmem
  have hpermitted := (forwarded_of_reachable hs).permitted message
    (List.mem_filterMap.mpr ⟨_, hmem, rfl⟩)
  exact ⟨hpermitted, hpermitted.understood⟩

/-- The call of an inhibition that is asked for and granted. -/
theorem requests_sent_in_order_granted : ∃ s,
    (machine Tracker.client).exec {} grantedRun = some s ∧
    begunRequests s.history = [(Tracker.firstHandle.val, "Inhibit.Inhibit")] ∧
    begunRequests s.history = (taskRequests Tracker.client s.tasks).reverse ++
      sentRequests Tracker.client s.history ∧
    s.tasks.length = 0 := by
  obtain ⟨s, hrun, hbegun, hcancelled, htasks⟩ := (machine Tracker.client).exists_exec_of_any {}
    grantedRun (P := fun s => begunRequests s.history =
      [(Tracker.firstHandle.val, "Inhibit.Inhibit")] ∧ s.cancelled = false ∧
        s.tasks.length = 0) (by decide +kernel)
  exact ⟨s, hrun, hbegun,
    (requests_sent_in_order (Machine.reachable_of_exec hrun)).2 hcancelled, htasks⟩

/-- The calls of the same run: two batches of property reads, and the inhibition. -/
theorem sent_understood_granted : ∃ s,
    (machine Tracker.client).exec {} grantedRun = some s ∧ (sent s.history).length = 8 ∧
    ∀ message, .sent message ∈ s.history → message.Permitted ∧ message.Understood := by
  obtain ⟨s, hrun, hlength⟩ := (machine Tracker.client).exists_exec_of_any {} grantedRun
    (P := fun s => (sent s.history).length = 8) (by decide +kernel)
  exact ⟨s, hrun, hlength, sent_understood (Machine.reachable_of_exec hrun)⟩

end Client

end XdgPortals
