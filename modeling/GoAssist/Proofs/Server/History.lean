import GoAssist.Server.Session
import Mathlib.Data.List.Induction

/-!
# A session as the histories of its documents

What a session answers about a document is decided by the calls that name it, and by the language
that the first opening or initialization of the whole run fixes. `trackedText?` computes the text of
a document from that history alone: it has no documents, no cached lines and no other addresses.

The invariant is `Remembers`: the language is the one that the calls so far fix, and each open
document is the document of its tracked text. `remembers_step` preserves it over one call and
`remembers_after` carries it over a run. The language that a longer run fixes is the one of the
calls so far, unless these fix none, and then no document was opened (`trackedText?_of_longer`).
-/

namespace GoAssist

/-! ## The history of a document -/

/-- The language that a call fixes if no earlier call does. -/
def Call.fixes? : Call → Option String
  | .begin options => some (languageOf options)
  | .didOpen .. => some defaultLanguage
  | _ => none

/-- The document that a call names. -/
def Call.uri? : Call → Option String
  | .didOpen uri _ _ => some uri
  | .didChange uri _ => some uri
  | .didClose uri => some uri
  | .hover uri _ => some uri
  | .completion uri _ => some uri
  | _ => none

/-- The text of a document after a call that names it. Only an opening in the session's language
makes a text, and only an open document has its text replaced, by the last one given. -/
def Call.editText (language? : Option String) (text? : Option String) : Call → Option String
  | .didOpen _ language text => if language? = some language then some text else text?
  | .didChange _ texts => text?.map fun text => texts.getLastD text
  | .didClose _ => none
  | _ => text?

/-- The language that a run fixes: the first of its calls that can decides. -/
def sessionLanguage? (calls : List Call) : Option String :=
  calls.findSome? Call.fixes?

/-- The text of a document after a run, by the calls that name it alone. -/
def trackedText? (language? : Option String) (uri : String) (calls : List Call) : Option String :=
  (calls.filter fun call => call.uri? = some uri).foldl (Call.editText language?) none

theorem trackedText?_concat (language? : Option String) (uri : String) (calls : List Call)
    (call : Call) :
    trackedText? language? uri (calls ++ [call])
      = if call.uri? = some uri then call.editText language? (trackedText? language? uri calls)
        else trackedText? language? uri calls := by
  rw [trackedText?, List.filter_append, List.foldl_append]
  by_cases h : call.uri? = some uri
  · simp [h, trackedText?]
  · simp [h, trackedText?]

theorem sessionLanguage?_append (calls rest : List Call) :
    sessionLanguage? (calls ++ rest) = (sessionLanguage? calls).or (sessionLanguage? rest) :=
  List.findSome?_append

/-- Before a language is fixed no document has been opened. -/
theorem trackedText?_of_no_language {calls : List Call} (h : sessionLanguage? calls = none)
    (language? : Option String) (uri : String) : trackedText? language? uri calls = none := by
  induction calls using List.reverseRecOn with
  | nil => rfl
  | append_singleton calls call ih =>
      rw [sessionLanguage?_append, Option.or_eq_none_iff] at h
      obtain ⟨hcalls, hcall⟩ := h
      rw [trackedText?_concat, ih hcalls]
      cases call with
      | didOpen uri' language text => simp [sessionLanguage?, Call.fixes?] at hcall
      | _ => simp [Call.editText]

/-- What a longer run fixes does not change what is tracked so far. -/
theorem trackedText?_of_longer (calls rest : List Call) (uri : String) :
    trackedText? (sessionLanguage? (calls ++ rest)) uri calls
      = trackedText? (sessionLanguage? calls) uri calls := by
  cases h : sessionLanguage? calls with
  | none => rw [trackedText?_of_no_language h, trackedText?_of_no_language h]
  | some language => rw [sessionLanguage?_append, h, Option.some_or]

/-- A tracked text goes back to the opening of its document in the session's language, and the
document was not closed since. -/
theorem exists_didOpen_of_trackedText? {language? : Option String} {uri text : String}
    {calls : List Call} (h : trackedText? language? uri calls = some text) :
    ∃ earlier language opened later, calls = earlier ++ .didOpen uri language opened :: later
      ∧ language? = some language ∧ .didClose uri ∉ later := by
  induction calls using List.reverseRecOn generalizing text with
  | nil => cases h
  | append_singleton calls call ih =>
      rw [trackedText?_concat] at h
      have hextend : ∀ text, trackedText? language? uri calls = some text → call ≠ .didClose uri →
          ∃ earlier language opened later,
            calls ++ [call] = earlier ++ .didOpen uri language opened :: later
              ∧ language? = some language ∧ .didClose uri ∉ later := by
        intro text htext hcall
        obtain ⟨earlier, language, opened, later, rfl, hlanguage, hlater⟩ := ih htext
        refine ⟨earlier, language, opened, later ++ [call], by simp, hlanguage, ?_⟩
        simp [hlater, hcall.symm]
      by_cases huri : call.uri? = some uri
      · rw [if_pos huri] at h
        cases call with
        | didOpen named language opened =>
            obtain rfl : named = uri := Option.some.inj huri
            rw [Call.editText] at h
            split at h
            · rename_i hlanguage
              exact ⟨calls, language, opened, [], rfl, hlanguage, List.not_mem_nil⟩
            · exact hextend _ h (by simp)
        | didChange named texts =>
            obtain ⟨before, hbefore, -⟩ := Option.map_eq_some_iff.mp h
            exact hextend before hbefore (by simp)
        | didClose named => cases h
        | hover named position => exact hextend _ h (by simp)
        | completion named position => exact hextend _ h (by simp)
        | _ => cases huri
      · rw [if_neg huri] at h
        exact hextend _ h fun heq => huri (by rw [heq]; rfl)

/-! ## Runs -/

namespace Session

/-- The state after calls made one after another. -/
def after (registry : Registry) (session : Session) (calls : List Call) : Session :=
  calls.foldl (fun session call => (session.step registry call).session) session

/-- What calls made one after another lead to, one turn a call. -/
def turns (registry : Registry) : Session → List Call → List Turn
  | _, [] => []
  | session, call :: rest =>
    let turn := session.step registry call
    turn :: turns registry turn.session rest

theorem after_append (registry : Registry) (session : Session) (calls rest : List Call) :
    session.after registry (calls ++ rest) = (session.after registry calls).after registry rest :=
  List.foldl_append

/-- The turn of a call is its step from the state that the calls before it lead to. -/
theorem getElem?_turns (registry : Registry) : ∀ (session : Session) (before : List Call)
    (call : Call) (rest : List Call),
    (session.turns registry (before ++ call :: rest))[before.length]?
      = some ((session.after registry before).step registry call)
  | _, [], _, _ => rfl
  | session, first :: before, call, rest => by
      rw [List.cons_append, turns, List.length_cons, List.getElem?_cons_succ,
        getElem?_turns registry _ before call rest]
      rfl

/-! ## The invariant -/

/-- The session is in the state that the histories of its documents describe. -/
structure Remembers (calls : List Call) (session : Session) : Prop where
  /-- The language is the one that the calls fix. -/
  language : session.language = sessionLanguage? calls
  /-- Each open document is a fresh one of its tracked text. -/
  documents (uri : String) : session.documents[uri]?
    = (trackedText? (sessionLanguage? calls) uri calls).map Document.ofText

theorem remembers_start (debug : Bool) : Remembers [] (start debug) :=
  ⟨rfl, fun _ => Std.TreeMap.getElem?_emptyc⟩

variable {registry : Registry} {calls : List Call} {session : Session}

/-- Fixing a language is what the first call that can does. -/
theorem language_fixLanguage (h : session.language = sessionLanguage? calls) {call : Call}
    {language : String} (hfix : call.fixes? = some language) :
    (session.fixLanguage language).language = sessionLanguage? (calls ++ [call]) := by
  rw [sessionLanguage?_append, ← h]
  cases hl : session.language with
  | none => simp [fixLanguage, hl, sessionLanguage?, hfix]
  | some fixed => simp [fixLanguage, hl]

theorem language_step (h : session.language = sessionLanguage? calls) (call : Call) :
    (session.step registry call).session.language = sessionLanguage? (calls ++ [call]) := by
  have hkeep : call.fixes? = none → session.language = sessionLanguage? (calls ++ [call]) := by
    intro hnone
    rw [sessionLanguage?_append, h, sessionLanguage?, sessionLanguage?, List.findSome?_singleton,
      hnone, Option.or_none]
  cases call with
  | begin options => exact language_fixLanguage h rfl
  | didOpen uri language text =>
      simp only [step]
      split
      · exact language_fixLanguage h rfl
      · exact language_fixLanguage h rfl
  | didChange uri texts =>
      simp only [step]
      split
      · exact hkeep rfl
      · exact hkeep rfl
  | initialized => exact hkeep rfl
  | shutdown => exact hkeep rfl
  | didClose uri => exact hkeep rfl
  | hover uri position => exact hkeep rfl
  | completion uri position => exact hkeep rfl

/-! ## What one call does to one document -/

/-- An opening in the session's language makes a fresh document; any other leaves all as it is. -/
theorem documents_didOpen (session : Session) (named language text uri : String) :
    (session.step registry (.didOpen named language text)).session.documents[uri]?
      = if named = uri ∧ (session.fixLanguage defaultLanguage).language = some language
        then some (.ofText text) else session.documents[uri]? := by
  simp only [step]
  by_cases hlanguage : (session.fixLanguage defaultLanguage).language = some language
  · rw [if_pos hlanguage]
    simp only [hlanguage, and_true, Std.TreeMap.getElem?_insert, Std.compare_eq_iff_eq]
    rfl
  · rw [if_neg hlanguage, if_neg fun h => hlanguage h.2]
    rfl

/-- A change replaces the text of the document it names, if that is open. -/
theorem documents_didChange (session : Session) (named : String) (texts : List String)
    (uri : String) :
    (session.step registry (.didChange named texts)).session.documents[uri]?
      = if named = uri then session.documents[uri]?.map fun document =>
          texts.foldl Document.update document
        else session.documents[uri]? := by
  simp only [step]
  split
  · rename_i hnone
    by_cases huri : named = uri
    · rw [if_pos huri, ← huri, hnone, Option.map_none]
    · rw [if_neg huri]
  · rename_i document hsome
    simp only [Std.TreeMap.getElem?_insert, Std.compare_eq_iff_eq]
    by_cases huri : named = uri
    · rw [if_pos huri, if_pos huri, ← huri, hsome, Option.map_some]
    · rw [if_neg huri, if_neg huri]

/-- A closed document is gone, and no other one is. -/
theorem documents_didClose (session : Session) (named uri : String) :
    (session.step registry (.didClose named)).session.documents[uri]?
      = if named = uri then none else session.documents[uri]? := by
  simp only [step, Std.TreeMap.getElem?_erase, Std.compare_eq_iff_eq]

/-- What one call does to a document is what its history says. -/
theorem documents_step (h : Remembers calls session) (call : Call) (uri : String) :
    (session.step registry call).session.documents[uri]?
      = (trackedText? (sessionLanguage? (calls ++ [call])) uri (calls ++ [call])).map
          Document.ofText := by
  have hdoc := h.documents uri
  rw [trackedText?_concat, trackedText?_of_longer]
  -- Only the calls that name a document differ from `hdoc`, each by its lemma above.
  cases call with
  | didOpen named language text =>
      have hfix : (session.fixLanguage defaultLanguage).language
          = sessionLanguage? (calls ++ [.didOpen named language text]) :=
        language_fixLanguage h.language rfl
      rw [documents_didOpen, hfix, hdoc]
      by_cases huri : named = uri
      · simp only [Call.uri?, Call.editText, huri, true_and, if_true]
        split <;> rfl
      · simp [Call.uri?, huri]
  | didChange named texts =>
      rw [documents_didChange, hdoc]
      by_cases huri : named = uri
      · simp only [Call.uri?, Call.editText, huri, if_true, Option.map_map]
        exact congrArg (Option.map · _) (funext fun text => Document.foldl_update_ofText texts text)
      · simp [Call.uri?, huri]
  | didClose named =>
      rw [documents_didClose, hdoc]
      by_cases huri : named = uri
      · simp [Call.uri?, Call.editText, huri]
      · simp [Call.uri?, huri]
  | begin options => simpa [step, Call.uri?, fixLanguage] using hdoc
  | initialized => simpa [step, Call.uri?] using hdoc
  | shutdown => simpa [step, Call.uri?] using hdoc
  | hover named position => simpa [step, Call.uri?, Call.editText] using hdoc
  | completion named position => simpa [step, Call.uri?, Call.editText] using hdoc

theorem remembers_step (h : Remembers calls session) (call : Call) :
    Remembers (calls ++ [call]) (session.step registry call).session :=
  ⟨language_step h.language call, documents_step h call⟩

/-- The histories describe the session after every run. -/
theorem remembers_after (registry : Registry) (debug : Bool) (calls : List Call) :
    Remembers calls ((start debug).after registry calls) := by
  induction calls using List.reverseRecOn with
  | nil => exact remembers_start debug
  | append_singleton calls call ih =>
      rw [after_append]
      exact remembers_step ih call

/-! ## The answers -/

/-- Every request about a document is answered as on a fresh document of its tracked text, and with
nothing if no text is tracked. The text is tracked by the calls that name the document, in the
language that the run fixes, and no other call, document or debug flag has a part in it. So the
lines of an open document always are those of its text. -/
theorem answers_of_history (registry : Registry) (debug : Bool) (before rest : List Call)
    (uri : String) (position : Position) :
    (((start debug).turns registry
        (before ++ .hover uri position :: rest))[before.length]?.map Turn.reply
      = some (.hover ((trackedText?
          (sessionLanguage? (before ++ .hover uri position :: rest)) uri before).bind
            fun text => (Document.ofText text).hover? registry position)))
    ∧ (((start debug).turns registry
        (before ++ .completion uri position :: rest))[before.length]?.map Turn.reply
      = some (.items ((trackedText?
          (sessionLanguage? (before ++ .completion uri position :: rest)) uri before).map
            fun text => (Document.ofText text).items registry position)))
    ∧ ((start debug).after registry before).documents[uri]?
      = (trackedText? (sessionLanguage? before) uri before).map Document.ofText := by
  have hdoc := (remembers_after registry debug before).documents uri
  refine ⟨?_, ?_, hdoc⟩
  · simp only [getElem?_turns, Option.map_some, step, hdoc, trackedText?_of_longer,
      Option.bind_map]
    rfl
  · simp only [getElem?_turns, Option.map_some, step, hdoc, trackedText?_of_longer,
      Option.map_map]
    rfl

end Session

end GoAssist
