import GoAssist.Proofs.Server.History
import Mathlib.Data.List.Forall2

/-!
# What the debug flag shows

Two sessions that are sent the same calls, one with the debug flag on and one with it off, differ in
their logs alone. `Turn.quiet` takes from a turn what only the flag put there, and `step_setDebug`
says for one call that the turn with the flag off is the quiet one of the turn with it on. The
sessions that the two calls lead to differ in the flag again, so `turns_setDebug` carries this over
a run.
-/

namespace GoAssist

/-- Whether a line of the log is there without the debug flag. -/
def isPlainLine (line : String) : Bool :=
  !line.startsWith "[DEBUG] "

namespace Session

/-- The session with the debug flag on or off. -/
def setDebug (session : Session) (debug : Bool) : Session :=
  { session with debug }

end Session

/-- What a turn is without the debug flag. -/
def Turn.quiet (turn : Turn) : Turn :=
  ⟨turn.session.setDebug false, turn.reply, turn.log.filter isPlainLine⟩

namespace Session

variable {registry : Registry}

theorem setDebug_of_debug_eq {session : Session} {debug : Bool} (h : session.debug = debug) :
    session.setDebug debug = session := by
  subst h
  rfl

theorem trace_setDebug_false (session : Session) (text : String) :
    (session.setDebug false).trace text = [] := rfl

/-- All that the debug flag logs is left out without it. -/
theorem filter_trace (session : Session) (text : String) :
    (session.trace text).filter isPlainLine = [] := by
  rw [trace]
  split
  · have hmarked : ("[DEBUG] " ++ text).startsWith "[DEBUG] " = true := by simp
    rw [List.filter_cons_of_neg (by simp [isPlainLine, hmarked]), List.filter_nil]
  · rfl

theorem isPlainLine_initialized : isPlainLine "gopad LSP server initialized" = true := by
  decide +kernel

/-- A call with the debug flag off does what it does with the flag on, but for the marked lines. -/
theorem step_setDebug (session : Session) (call : Call) :
    (session.setDebug false).step registry call
      = ((session.setDebug true).step registry call).quiet := by
  cases call with
  | begin options => simp only [step, Turn.quiet, filter_trace, trace_setDebug_false]; rfl
  | initialized =>
      simp only [step, Turn.quiet, List.filter_append, filter_trace, trace_setDebug_false,
        List.filter_singleton, isPlainLine_initialized]
      rfl
  | shutdown => simp only [step, Turn.quiet, filter_trace, trace_setDebug_false]; rfl
  | didOpen uri language text =>
      have hlanguage : ((session.setDebug true).fixLanguage defaultLanguage).language
          = ((session.setDebug false).fixLanguage defaultLanguage).language := rfl
      simp only [step, hlanguage]
      split
      · simp only [Turn.quiet, filter_trace, trace_setDebug_false]; rfl
      · simp only [Turn.quiet, filter_trace, trace_setDebug_false]; rfl
  | didChange uri texts =>
      have hdocument : (session.setDebug true).documents[uri]?
          = (session.setDebug false).documents[uri]? := rfl
      simp only [step, hdocument]
      split
      · rfl
      · simp only [Turn.quiet, filter_trace, trace_setDebug_false]; rfl
  | didClose uri => simp only [step, Turn.quiet, filter_trace, trace_setDebug_false]; rfl
  | hover uri position => simp only [step, Turn.quiet, filter_trace, trace_setDebug_false]; rfl
  | completion uri position =>
      simp only [step, Turn.quiet, filter_trace, trace_setDebug_false]; rfl

/-- A run with the debug flag off is the run with the flag on, but for the marked lines. -/
theorem turns_setDebug (calls : List Call) : ∀ session : Session,
    (session.setDebug false).turns registry calls
      = ((session.setDebug true).turns registry calls).map Turn.quiet := by
  induction calls with
  | nil => exact fun _ => rfl
  | cons call rest ih =>
      intro session
      have hflag : ((session.setDebug true).step registry call).session.setDebug true
          = ((session.setDebug true).step registry call).session :=
        setDebug_of_debug_eq (debug_step call)
      have hrest := ih ((session.setDebug true).step registry call).session
      rw [hflag] at hrest
      simp only [turns, List.map_cons, step_setDebug, ← hrest]
      rfl

/-- The debug flag shows in the log alone. A run of calls with the flag off has the replies, the
languages and the documents of the run with the flag on, turn by turn, and logs the lines of that
run that do not begin with the mark, in their order. -/
theorem debug_shows_in_log (registry : Registry) (calls : List Call) :
    List.Forall₂ (fun loud quiet : Turn => quiet.reply = loud.reply
        ∧ quiet.session.language = loud.session.language
        ∧ quiet.session.documents = loud.session.documents
        ∧ quiet.log = loud.log.filter fun line => !line.startsWith "[DEBUG] ")
      ((start true).turns registry calls) ((start false).turns registry calls) := by
  have hquiet : (start false).turns registry calls
      = ((start true).turns registry calls).map Turn.quiet := turns_setDebug calls (start true)
  rw [hquiet]
  exact List.forall₂_map_right_iff.mpr (List.forall₂_same.mpr fun turn _ => ⟨rfl, rfl, rfl, rfl⟩)

end Session

end GoAssist
