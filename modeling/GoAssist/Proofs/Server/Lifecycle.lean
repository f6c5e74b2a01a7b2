import GoAssist.Proofs.Server.History
import GoAssist.Server.Connection

/-!
# What a connection lets through to its session

A message makes a call if it is well-formed (`Message.Makes`), and the call is accepted in the phase
for it: the one that begins a session before it, and every other one while the session is on. An
accepted call is made (`receive_of_accepted`), and all else that arrives leaves the session as it is
(`idle_take`). So the session is the one that the accepted calls lead to when they are made directly
(`session_after`).

Over a run the accepted calls are none, or one that begins the session and then no other of its kind
(`Sequenced`, which `Sequenced.concat` and `Sequenced.idle` keep). From there on the history of the
session decides: its language is fixed by the first of its calls, which over a connection is never
the opening of a document.
-/

namespace GoAssist

/-! ## The calls that messages make -/

/-- Whether a call asks about a document. -/
def Call.isQuestion : Call → Bool
  | .hover .. | .completion .. => true
  | _ => false

/-- Whether a call tells of something and is not answered. -/
def Call.isNotice : Call → Bool
  | .initialized | .didOpen .. | .didChange .. | .didClose .. => true
  | _ => false

namespace Params

variable {params : Json} {call : Call}

theorem exists_options_of_begin? {sent : Option Json} (h : sent.bind begin? = some call) :
    ∃ options, call = .begin options := by
  obtain ⟨params, -, h⟩ := Option.bind_eq_some_iff.mp h
  obtain ⟨checked, -, h⟩ := Option.bind_eq_some_iff.mp h
  split at h
  · exact ⟨_, (Option.some.inj h).symm⟩
  · exact ⟨_, (Option.some.inj h).symm⟩

theorem isNotice_of_initialized? (h : initialized? params = some call) : call.isNotice = true := by
  obtain ⟨checked, -, rfl⟩ := Option.map_eq_some_iff.mp h
  rfl

theorem isNotice_of_didOpen? (h : didOpen? params = some call) : call.isNotice = true := by
  obtain ⟨checked, -, h⟩ := Option.bind_eq_some_iff.mp h
  obtain ⟨document, -, h⟩ := Option.bind_eq_some_iff.mp h
  split at h
  · obtain ⟨uri, -, h⟩ := Option.bind_eq_some_iff.mp h
    obtain ⟨language, -, h⟩ := Option.bind_eq_some_iff.mp h
    obtain ⟨text, -, h⟩ := Option.bind_eq_some_iff.mp h
    rw [← Option.some.inj h]
    rfl
  · cases h

theorem isNotice_of_didChange? (h : didChange? params = some call) : call.isNotice = true := by
  obtain ⟨checked, -, h⟩ := Option.bind_eq_some_iff.mp h
  split at h
  · split at h
    · obtain ⟨uri, -, h⟩ := Option.bind_eq_some_iff.mp h
      obtain ⟨texts, -, h⟩ := Option.bind_eq_some_iff.mp h
      rw [← Option.some.inj h]
      rfl
    · cases h
  · cases h

theorem isNotice_of_didClose? (h : didClose? params = some call) : call.isNotice = true := by
  obtain ⟨checked, -, h⟩ := Option.bind_eq_some_iff.mp h
  obtain ⟨document, -, h⟩ := Option.bind_eq_some_iff.mp h
  obtain ⟨part, -, h⟩ := Option.bind_eq_some_iff.mp h
  obtain ⟨uri, -, h⟩ := Option.bind_eq_some_iff.mp h
  rw [← Option.some.inj h]
  rfl

theorem isQuestion_of_hover? (h : hover? params = some call) : call.isQuestion = true := by
  obtain ⟨checked, -, h⟩ := Option.bind_eq_some_iff.mp h
  obtain ⟨place, -, h⟩ := Option.bind_eq_some_iff.mp h
  rw [← Option.some.inj h]
  rfl

theorem isQuestion_of_completion? (h : completion? params = some call) :
    call.isQuestion = true := by
  obtain ⟨checked, -, h⟩ := Option.bind_eq_some_iff.mp h
  obtain ⟨place, -, h⟩ := Option.bind_eq_some_iff.mp h
  rw [← Option.some.inj h]
  rfl

end Params

/-- A method that is served as a request reads questions, and one that is heeded as a notification
reads notices. -/
def Method.ReadsItsKind : Method → Prop
  | .request read => ∀ params call, read params = some call → call.isQuestion = true
  | .notification read => ∀ params call, read params = some call → call.isNotice = true
  | _ => True

theorem Method.readsItsKind_ofName (name : String) : (Method.ofName name).ReadsItsKind := by
  unfold Method.ofName
  split
  · trivial
  · exact fun _ _ => Params.isNotice_of_initialized?
  · trivial
  · trivial
  · trivial
  · exact fun _ _ => Params.isNotice_of_didOpen?
  · exact fun _ _ => Params.isNotice_of_didChange?
  · exact fun _ _ => Params.isNotice_of_didClose?
  · exact fun _ _ => Params.isQuestion_of_hover?
  · exact fun _ _ => Params.isQuestion_of_completion?
  · unfold Method.ofOtherName
    split
    · trivial
    · split <;> trivial

section Readers

variable {name : String} {sent : Option Json} {read : Json → Option Call} {call : Call}

theorem Method.isQuestion_of_request (hmethod : Method.ofName name = .request read)
    (hread : sent.bind read = some call) : call.isQuestion = true := by
  have hkind := Method.readsItsKind_ofName name
  rw [hmethod] at hkind
  obtain ⟨params, -, hread⟩ := Option.bind_eq_some_iff.mp hread
  exact hkind params call hread

theorem Method.isNotice_of_notification (hmethod : Method.ofName name = .notification read)
    (hread : sent.bind read = some call) : call.isNotice = true := by
  have hkind := Method.readsItsKind_ofName name
  rw [hmethod] at hkind
  obtain ⟨params, -, hread⟩ := Option.bind_eq_some_iff.mp hread
  exact hkind params call hread

end Readers

/-- The call of a well-formed message: it names a method of the session, it has an identifier exactly
if that method is a request, and its parameters can be read. -/
def Message.call? (message : Message) : Option Call :=
  match Method.ofName message.method, message.id with
  | .begin, some _ => message.params.bind Params.begin?
  | .shutdown, some _ => if message.params.isNone then some .shutdown else none
  | .request read, some _ => message.params.bind read
  | .notification read, none => message.params.bind read
  | _, _ => none

/-- How a well-formed message makes a call. -/
inductive Message.Makes (message : Message) : Call → Prop where
  | begin {id : Json} {options : Option Json} (hmethod : Method.ofName message.method = .begin)
      (hid : message.id = some id)
      (hread : message.params.bind Params.begin? = some (.begin options)) :
      message.Makes (.begin options)
  | shutdown {id : Json} (hmethod : Method.ofName message.method = .shutdown)
      (hid : message.id = some id) (hparams : message.params = none) : message.Makes .shutdown
  | question {id : Json} {read : Json → Option Call} {call : Call}
      (hmethod : Method.ofName message.method = .request read) (hid : message.id = some id)
      (hread : message.params.bind read = some call) (hcall : call.isQuestion = true) :
      message.Makes call
  | notice {read : Json → Option Call} {call : Call}
      (hmethod : Method.ofName message.method = .notification read) (hid : message.id = none)
      (hread : message.params.bind read = some call) (hcall : call.isNotice = true) :
      message.Makes call

theorem Message.call?_eq_some_iff {message : Message} {call : Call} :
    message.call? = some call ↔ message.Makes call := by
  constructor
  · intro h
    unfold Message.call? at h
    split at h
    · rename_i id hmethod hid
      obtain ⟨options, rfl⟩ := Params.exists_options_of_begin? h
      exact .begin hmethod hid h
    · rename_i id hmethod hid
      split at h
      · rename_i hparams
        obtain rfl := Option.some.inj h
        exact .shutdown hmethod hid (Option.isNone_iff_eq_none.mp hparams)
      · cases h
    · rename_i read id hmethod hid
      exact .question hmethod hid h (Method.isQuestion_of_request hmethod h)
    · rename_i read hmethod hid
      exact .notice hmethod hid h (Method.isNotice_of_notification hmethod h)
    · cases h
  · intro h
    cases h with
    | begin hmethod hid hread => rwa [Message.call?, hmethod, hid]
    | shutdown hmethod hid hparams => rw [Message.call?, hmethod, hid, hparams]; rfl
    | question hmethod hid hread _ => rwa [Message.call?, hmethod, hid]
    | notice hmethod hid hread _ => rwa [Message.call?, hmethod, hid]

/-- The phase in which a call is made. -/
def Call.phaseBefore : Call → Phase
  | .begin _ => .uninitialized
  | _ => .initialized

/-- The phase that a call leads to. -/
def Call.phaseAfter : Call → Phase
  | .shutdown => .shutDown
  | _ => .initialized

theorem Call.phases_of_isQuestion {call : Call} (h : call.isQuestion = true) :
    call.phaseBefore = .initialized ∧ call.phaseAfter = .initialized := by
  cases call with
  | hover uri position => exact ⟨rfl, rfl⟩
  | completion uri position => exact ⟨rfl, rfl⟩
  | _ => cases h

theorem Call.phases_of_isNotice {call : Call} (h : call.isNotice = true) :
    call.phaseBefore = .initialized ∧ call.phaseAfter = .initialized := by
  cases call with
  | initialized => exact ⟨rfl, rfl⟩
  | didOpen uri language text => exact ⟨rfl, rfl⟩
  | didChange uri texts => exact ⟨rfl, rfl⟩
  | didClose uri => exact ⟨rfl, rfl⟩
  | _ => cases h

/-- A call is made either before the session, and then it tells of nothing, or while it is on. -/
theorem Call.phaseBefore_cases (call : Call) :
    (call.phaseBefore = .uninitialized ∧ call.isNotice = false)
      ∨ call.phaseBefore = .initialized := by
  cases call with
  | begin options => exact .inl ⟨rfl, rfl⟩
  | _ => exact .inr rfl

/-! ## One message -/

namespace Connection

variable {registry : Registry} {connection : Connection} {message : Message} {call : Call}

/-- The call of what arrives, if the connection accepts it: the message is well-formed and comes in
the phase for its call. -/
def accepted? (connection : Connection) : Incoming → Option Call
  | .message message => message.call?.filter fun call => connection.phase = call.phaseBefore
  | _ => none

theorem accepted?_message_eq_some_iff : connection.accepted? (.message message) = some call
    ↔ message.Makes call ∧ connection.phase = call.phaseBefore := by
  simp only [accepted?, Option.filter_eq_some_iff, decide_eq_true_eq, Message.call?_eq_some_iff]

/-- An accepted call is made, and answered if the message was a request. -/
theorem receive_of_accepted (h : connection.accepted? (.message message) = some call) :
    connection.receive registry message
      = ⟨⟨call.phaseAfter, (connection.session.step registry call).session⟩,
          message.id.elim .silent (.result · (connection.session.step registry call).reply),
          (connection.session.step registry call).log⟩ := by
  obtain ⟨hmakes, hphase⟩ := accepted?_message_eq_some_iff.mp h
  cases hmakes with
  | begin hmethod hid hread =>
      rw [Call.phaseBefore] at hphase
      simp [receive, serve, hmethod, hid, hphase, hread, Call.phaseAfter]
  | shutdown hmethod hid hparams =>
      have hphase : connection.phase = .initialized := hphase
      simp [receive, serve, hmethod, hid, hphase, hparams, Call.phaseAfter]
  | question hmethod hid hread hcall =>
      obtain ⟨hbefore, hafter⟩ := Call.phases_of_isQuestion hcall
      rw [hbefore] at hphase
      simp [receive, serve, hmethod, hid, hphase, hread, hafter]
  | notice hmethod hid hread hcall =>
      obtain ⟨hbefore, hafter⟩ := Call.phases_of_isNotice hcall
      rw [hbefore] at hphase
      simp [receive, heed, hmethod, hid, hphase, hread, hafter]

/-- The session was left alone. The connection may have been closed, or the session shut down by a
malformed request to end it. -/
structure Idle (connection : Connection) (exchange : Exchange) : Prop where
  session : exchange.connection.session = connection.session
  phase : exchange.connection.phase = connection.phase ∨ exchange.connection.phase = .exited
    ∨ (connection.phase = .initialized ∧ exchange.connection.phase = .shutDown)
  log : exchange.log = []
  response : ∀ id reply, exchange.response ≠ .result id reply

theorem idle_silent : connection.Idle ⟨connection, .silent, []⟩ :=
  ⟨rfl, .inl rfl, rfl, fun _ _ => by simp⟩

theorem idle_closed : connection.Idle ⟨connection, .closed, []⟩ :=
  ⟨rfl, .inl rfl, rfl, fun _ _ => by simp⟩

theorem idle_fault {id : Json} {fault : Fault} :
    connection.Idle ⟨connection, .fault id fault, []⟩ :=
  ⟨rfl, .inl rfl, rfl, fun _ _ => by simp⟩

theorem idle_refuse (fault : Fault) : connection.Idle (connection.refuse message fault) := by
  unfold refuse
  split
  · exact idle_silent
  · exact idle_fault

theorem idle_refuseOutside : connection.Idle (connection.refuseOutside message) :=
  idle_refuse _

/-- A request that makes no call is not served. -/
theorem idle_serve {found : Option Call} {after : Phase}
    (h : ∀ id call, message.id = some id → found ≠ some call) :
    connection.Idle (connection.serve registry message found after) := by
  unfold serve
  split
  · exact idle_silent
  · exact idle_fault
  · rename_i id call hid
    exact absurd rfl (h id call hid)

/-- A notification that makes no call is not heeded. -/
theorem idle_heed {found : Option Call} (h : ∀ call, message.id = none → found ≠ some call) :
    connection.Idle (connection.heed registry message found) := by
  unfold heed
  split
  · exact idle_fault
  · exact idle_silent
  · rename_i call hid
    exact absurd rfl (h call hid)

/-- What is not accepted leaves the session alone. -/
theorem idle_receive (h : connection.accepted? (.message message) = none) :
    connection.Idle (connection.receive registry message) := by
  have hrefused : ∀ call, message.Makes call → connection.phase ≠ call.phaseBefore := by
    intro call hmakes hphase
    rw [accepted?_message_eq_some_iff.mpr ⟨hmakes, hphase⟩] at h
    cases h
  by_cases hexited : connection.phase = .exited
  · rw [receive, if_pos hexited]
    exact idle_closed
  rw [receive, if_neg hexited]
  cases hmethod : Method.ofName message.method with
  | begin =>
      dsimp only
      split
      · rename_i hphase
        refine idle_serve fun id call hid hfound => ?_
        obtain ⟨options, rfl⟩ := Params.exists_options_of_begin? hfound
        exact hrefused _ (.begin hmethod hid hfound) hphase
      · exact idle_refuse _
  | shutdown =>
      dsimp only
      split
      · rename_i hphase
        have hidle : Idle { connection with phase := .shutDown }
            (serve registry { connection with phase := .shutDown } message
              (if message.params.isNone then some .shutdown else none) .shutDown) := by
          refine idle_serve fun id call hid hfound => ?_
          split at hfound
          · rename_i hnone
            exact hrefused _ (.shutdown hmethod hid (Option.isNone_iff_eq_none.mp hnone)) hphase
          · cases hfound
        refine ⟨hidle.session, ?_, hidle.log, hidle.response⟩
        rcases hidle.phase with hsame | hclosed | ⟨hon, -⟩
        · exact .inr (.inr ⟨hphase, hsame⟩)
        · exact .inr (.inl hclosed)
        · cases hon
      · exact idle_refuseOutside
  | exit => exact ⟨rfl, .inr (.inl rfl), rfl, idle_silent.response⟩
  | request read =>
      dsimp only
      split
      · rename_i hphase
        refine idle_serve fun id call hid hfound => ?_
        have hcall := Method.isQuestion_of_request hmethod hfound
        exact hrefused call (.question hmethod hid hfound hcall)
          (hphase.trans (Call.phases_of_isQuestion hcall).1.symm)
      · exact idle_refuseOutside
  | notification read =>
      dsimp only
      split
      · rename_i hphase
        refine idle_heed fun call hid hfound => ?_
        have hcall := Method.isNotice_of_notification hmethod hfound
        exact hrefused call (.notice hmethod hid hfound hcall)
          (hphase.trans (Call.phases_of_isNotice hcall).1.symm)
      · exact idle_refuseOutside
  | unservedRequest schema =>
      dsimp only
      split
      · exact idle_refuse _
      · exact idle_refuseOutside
  | unheededNotification =>
      dsimp only
      split
      · exact idle_refuse _
      · exact idle_refuseOutside
  | cancel => exact idle_refuse _
  | unknown =>
      dsimp only
      split
      · exact idle_silent
      · exact idle_refuse _

theorem idle_take {incoming : Incoming} (h : connection.accepted? incoming = none) :
    connection.Idle (connection.take registry incoming) := by
  cases incoming with
  | message message => exact idle_receive h
  | response => exact idle_silent
  | unfit => exact idle_fault
  | unreadable => exact idle_fault

theorem phase_of_accepted {incoming : Incoming} (h : connection.accepted? incoming = some call) :
    connection.phase = call.phaseBefore := by
  cases incoming with
  | message message => exact (accepted?_message_eq_some_iff.mp h).2
  | _ => cases h

theorem take_of_accepted {incoming : Incoming} (h : connection.accepted? incoming = some call) :
    (connection.take registry incoming).connection
      = ⟨call.phaseAfter, (connection.session.step registry call).session⟩ := by
  cases incoming with
  | message message => rw [take, receive_of_accepted h]
  | _ => cases h

/-- A request is accepted exactly if it is answered with a result. -/
theorem isSome_accepted?_iff {id : Json} (hid : message.id = some id) :
    (connection.accepted? (.message message)).isSome
      ↔ ∃ reply, (connection.take registry (.message message)).response = .result id reply := by
  cases h : connection.accepted? (.message message) with
  | none =>
      refine ⟨nofun, fun ⟨reply, hreply⟩ => ?_⟩
      exact absurd hreply ((idle_take h).response id reply)
  | some call =>
      refine ⟨fun _ => ⟨(connection.session.step registry call).reply, ?_⟩, fun _ => rfl⟩
      rw [take, receive_of_accepted h, hid]
      rfl

/-- No request tells of anything. -/
theorem isNotice_eq_false_of_accepted {id : Json} (hid : message.id = some id)
    (h : connection.accepted? (.message message) = some call) : call.isNotice = false := by
  obtain ⟨hmakes, -⟩ := accepted?_message_eq_some_iff.mp h
  cases hmakes with
  | begin _ _ _ => rfl
  | shutdown _ _ _ => rfl
  | question _ _ _ hcall =>
      cases call with
      | hover uri position => rfl
      | completion uri position => rfl
      | _ => cases hcall
  | notice _ hnone _ _ =>
      rw [hid] at hnone
      cases hnone

end Connection

/-- Only notices open, change or close documents. -/
theorem Session.documents_step_of_not_isNotice {registry : Registry} {session : Session}
    {call : Call} (h : call.isNotice = false) :
    (session.step registry call).session.documents = session.documents := by
  cases call with
  | begin options => rfl
  | shutdown => rfl
  | hover uri position => rfl
  | completion uri position => rfl
  | _ => cases h

namespace Connection

variable {registry : Registry} {connection : Connection} {call : Call}

/-- The documents stay as they are unless a notice is accepted. -/
theorem documents_take_of_not_isNotice {incoming : Incoming}
    (h : ∀ call, connection.accepted? incoming = some call → call.isNotice = false) :
    (connection.take registry incoming).connection.session.documents
      = connection.session.documents := by
  cases haccepted : connection.accepted? incoming with
  | none => rw [(idle_take haccepted).session]
  | some call =>
      rw [take_of_accepted haccepted]
      exact Session.documents_step_of_not_isNotice (h call haccepted)

/-! ## Runs -/

/-- The state after messages that arrive one after another. -/
def after (registry : Registry) (connection : Connection) (arrived : List Incoming) : Connection :=
  arrived.foldl (fun connection incoming => (connection.take registry incoming).connection)
    connection

/-- The calls that are accepted of messages that arrive one after another. -/
def acceptedCalls (registry : Registry) : Connection → List Incoming → List Call
  | _, [] => []
  | connection, incoming :: rest =>
    (connection.accepted? incoming).toList
      ++ acceptedCalls registry (connection.take registry incoming).connection rest

theorem after_concat (arrived : List Incoming) (incoming : Incoming) :
    connection.after registry (arrived ++ [incoming])
      = ((connection.after registry arrived).take registry incoming).connection := by
  rw [after, List.foldl_append]
  rfl

theorem acceptedCalls_concat (incoming : Incoming) :
    ∀ (connection : Connection) (arrived : List Incoming),
      connection.acceptedCalls registry (arrived ++ [incoming])
        = connection.acceptedCalls registry arrived
          ++ ((connection.after registry arrived).accepted? incoming).toList
  | _, [] => by simp [acceptedCalls, after]
  | connection, first :: rest => by
      rw [List.cons_append, acceptedCalls, acceptedCalls_concat incoming _ rest, acceptedCalls,
        List.append_assoc]
      rfl

/-- The session is the one that the accepted calls lead to. -/
theorem session_after (connection : Connection) (arrived : List Incoming) :
    (connection.after registry arrived).session
      = connection.session.after registry (connection.acceptedCalls registry arrived) := by
  induction arrived using List.reverseRecOn with
  | nil => rfl
  | append_singleton arrived incoming ih =>
      rw [after_concat, acceptedCalls_concat, Session.after_append, ← ih]
      cases h : (connection.after registry arrived).accepted? incoming with
      | none =>
          rw [(idle_take h).session]
          rfl
      | some call =>
          rw [take_of_accepted h]
          rfl

/-- The accepted calls of a run and the phase that it leads to. -/
structure Sequenced (calls : List Call) (phase : Phase) : Prop where
  /-- No call is made before the session begins. -/
  uninitialized : phase = .uninitialized → calls = []
  /-- While the session is on, it was begun and not ended. -/
  initialized : phase = .initialized → calls ≠ [] ∧ .shutdown ∉ calls
  /-- The first call begins the session, and no other one does. -/
  opening : calls = [] ∨ ∃ options rest, calls = .begin options :: rest
    ∧ ∀ other, .begin other ∉ rest

theorem Sequenced.idle {calls : List Call} {phase next : Phase} (h : Sequenced calls phase)
    (hnext : next = phase ∨ next = .exited ∨ (phase = .initialized ∧ next = .shutDown)) :
    Sequenced calls next := by
  rcases hnext with rfl | rfl | ⟨-, rfl⟩
  · exact h
  · exact ⟨nofun, nofun, h.opening⟩
  · exact ⟨nofun, nofun, h.opening⟩

theorem Sequenced.concat {calls : List Call} {phase : Phase} (h : Sequenced calls phase)
    (hphase : phase = call.phaseBefore) : Sequenced (calls ++ [call]) call.phaseAfter := by
  by_cases hbegin : ∃ options, call = .begin options
  · obtain ⟨options, rfl⟩ := hbegin
    obtain rfl := h.uninitialized hphase
    exact ⟨nofun, fun _ => ⟨by simp, by simp⟩,
      .inr ⟨options, [], rfl, fun _ => List.not_mem_nil⟩⟩
  · have hon : phase = .initialized := by
      cases call with
      | begin options => exact absurd ⟨options, rfl⟩ hbegin
      | _ => exact hphase
    obtain ⟨hne, hshutdown⟩ := h.initialized hon
    rcases h.opening with hempty | ⟨options, rest, rfl, hrest⟩
    · exact absurd hempty hne
    · refine ⟨fun h => ?_, fun h => ⟨by simp, fun hmem => ?_⟩,
        .inr ⟨options, rest ++ [call], rfl, fun other hmem => ?_⟩⟩
      · cases call <;> cases h
      · rcases List.mem_append.mp hmem with hmem | hmem
        · exact hshutdown hmem
        · rw [← List.mem_singleton.mp hmem] at h
          cases h
      · rcases List.mem_append.mp hmem with hmem | hmem
        · exact hrest other hmem
        · exact hbegin ⟨other, (List.mem_singleton.mp hmem).symm⟩

/-- After the end of a session nothing is accepted. -/
theorem Sequenced.accepted?_eq_none {calls : List Call} (h : Sequenced calls connection.phase)
    {incoming : Incoming} (hended : .shutdown ∈ calls ∨ connection.phase = .shutDown
      ∨ connection.phase = .exited) : connection.accepted? incoming = none := by
  rw [Option.eq_none_iff_forall_ne_some]
  intro call haccepted
  rcases call.phaseBefore_cases with ⟨hoff, -⟩ | hon
  · have hphase := (phase_of_accepted haccepted).trans hoff
    rw [h.uninitialized hphase, hphase] at hended
    simp at hended
  · have hphase := (phase_of_accepted haccepted).trans hon
    rw [hphase] at hended
    exact (h.initialized hphase).2 (by simpa using hended)

theorem sequenced_after (debug : Bool) (arrived : List Incoming) :
    Sequenced ((start debug).acceptedCalls registry arrived)
      ((start debug).after registry arrived).phase := by
  induction arrived using List.reverseRecOn with
  | nil => exact ⟨fun _ => rfl, nofun, .inl rfl⟩
  | append_singleton arrived incoming ih =>
      rw [after_concat, acceptedCalls_concat]
      cases h : ((start debug).after registry arrived).accepted? incoming with
      | none =>
          rw [Option.toList_none, List.append_nil]
          exact ih.idle (idle_take h).phase
      | some call =>
          rw [take_of_accepted h]
          exact ih.concat (phase_of_accepted h)

end Connection

/-! ## The language of a session -/

/-- The options of the call that begins a session. -/
def Call.options? : Call → Option (Option Json)
  | .begin options => some options
  | _ => none

/-- The options name a language, in a member of an object or as the one item of an array. -/
inductive NamesLanguage : Option Json → String → Prop where
  | member {members : List (String × Json)} {language : String}
      (h : Json.memberNamed? members "languageId" = some (.string language)) :
      NamesLanguage (some (.object members)) language
  | item (language : String) : NamesLanguage (some (.array [.string language])) language

theorem languageOf_of_namesLanguage {options : Option Json} {language : String}
    (h : NamesLanguage options language) : languageOf options = language := by
  cases h with
  | member h => simp only [languageOf, h]
  | item language => rfl

theorem languageOf_of_not_namesLanguage {options : Option Json}
    (h : ∀ language, ¬NamesLanguage options language) : languageOf options = "go" := by
  unfold languageOf
  split
  · split
    · rename_i language hmember
      exact absurd (.member hmember) (h language)
    · rfl
  · rename_i language
    exact absurd (.item language) (h language)
  · rfl

namespace Connection

/-- Over a connection the language of the session is the negotiated one, whatever arrives and in
whatever order. The session is the one that the accepted calls make. There are no documents unless
a call that begins the session was accepted; the language is the one that the options of the first
such call name, or else the default, and it is not fixed before. Every document was opened by an
accepted call in that language, and no accepted call has closed it since. What is rejected, every
request, and all that arrives before the session begins or after it ends leave the documents as
they are. -/
theorem language_is_negotiated (registry : Registry) (debug : Bool) (arrived : List Incoming) :
    let connection := (start debug).after registry arrived
    let calls := (start debug).acceptedCalls registry arrived
    connection.session = (Session.start debug).after registry calls
    ∧ ((∀ uri : String, connection.session.documents[uri]? = none)
      ∨ ∃ options, .begin options ∈ calls)
    ∧ connection.session.language = (calls.findSome? Call.options?).map languageOf
    ∧ (∀ options language, NamesLanguage options language → languageOf options = language)
    ∧ (∀ options, (∀ language, ¬NamesLanguage options language) → languageOf options = "go")
    ∧ (∀ (uri : String) (document : Document), connection.session.documents[uri]? = some document →
      ∃ earlier language text later, calls = earlier ++ .didOpen uri language text :: later
        ∧ connection.session.language = some language ∧ .didClose uri ∉ later)
    ∧ ∀ incoming, let next := (connection.take registry incoming).connection
      (connection.accepted? incoming = none → next.session = connection.session)
      ∧ (∀ message id, incoming = .message message → message.id = some id →
        next.session.documents = connection.session.documents)
      ∧ ((∀ options, .begin options ∉ calls) →
        next.session.documents = connection.session.documents)
      ∧ (.shutdown ∈ calls ∨ connection.phase = .shutDown ∨ connection.phase = .exited →
        next.session = connection.session) := by
  intro connection calls
  have hsession : connection.session = (Session.start debug).after registry calls :=
    session_after (start debug) arrived
  have hremembers : Session.Remembers calls connection.session :=
    hsession ▸ Session.remembers_after registry debug calls
  have hsequenced : Sequenced calls connection.phase := sequenced_after debug arrived
  refine ⟨hsession, ?_, ?_, fun _ _ => languageOf_of_namesLanguage,
    fun _ => languageOf_of_not_namesLanguage, fun uri document hdocument => ?_, fun incoming => ?_⟩
  · rcases hsequenced.opening with hempty | ⟨options, rest, hcalls, -⟩
    · refine .inl fun uri => ?_
      rw [hremembers.documents, hempty]
      rfl
    · exact .inr ⟨options, hcalls ▸ List.mem_cons_self⟩
  · rw [hremembers.language]
    rcases hsequenced.opening with hempty | ⟨options, rest, hcalls, -⟩
    · rw [hempty]
      rfl
    · rw [hcalls]
      rfl
  · rw [hremembers.documents] at hdocument
    obtain ⟨text, htext, -⟩ := Option.map_eq_some_iff.mp hdocument
    rw [hremembers.language]
    exact exists_didOpen_of_trackedText? htext
  · refine ⟨fun h => (idle_take h).session, fun message id hmessage hid => ?_, fun hbefore => ?_,
      fun hended => (idle_take (hsequenced.accepted?_eq_none hended)).session⟩
    · subst hmessage
      exact documents_take_of_not_isNotice fun _ h => isNotice_eq_false_of_accepted hid h
    · refine documents_take_of_not_isNotice fun call h => ?_
      rcases call.phaseBefore_cases with ⟨-, hnotice⟩ | hon
      · exact hnotice
      · -- While the session is on, the call that began it is among the accepted ones.
        rcases hsequenced.opening with hempty | ⟨options, rest, hcalls, -⟩
        · exact absurd hempty (hsequenced.initialized ((phase_of_accepted h).trans hon)).1
        · exact absurd (hcalls ▸ List.mem_cons_self) (hbefore options)

end Connection

end GoAssist
