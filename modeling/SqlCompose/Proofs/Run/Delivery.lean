import SqlCompose.Condition.Build
import SqlCompose.Dialect.Postgres
import SqlCompose.Run.Access
/-!
# Every statement is sent once

A call puts a question to a query, and a run is a list of calls one after the other
(`Connection.askEach`). What a call may come to is said by `Connection.Serves`, a relation that
knows nothing of events and of how a connection goes about it: the query does not compile, and
nothing is sent; or its statement is sent, once and with all its parameters, and then the answer
is too late, an error of the backend, or a result that is read.

One call is served in one of these ways (`Connection.serves_ask`), and so are all the calls of a
run (`Connection.servesEach_askEach`), each with the statements before it in the hands of the
backend. Of the settings, only the time that a statement may take has a part in this
(`Connection.askEach_of_timeout`). `Connection.delivers` puts this together.
-/

namespace SqlCompose

/-- A question, and the query that it is put to. -/
structure Call where
  query : Query
  access : Access

namespace Settings

/-- Whether an answer after this delay is still awaited. -/
def Awaits (s : Settings) (delay : Duration) : Prop :=
  ∀ limit, s.timeout = some limit → delay.nanos ≤ limit.nanos

variable {s s' : Settings} {r : Reply}

theorem accept_of_awaits (h : s.Awaits r.delay) : s.accept r = r.result := by
  cases hlimit : s.timeout with
  | none => simp only [accept, hlimit]
  | some limit =>
    have hdelay := h limit hlimit
    simp only [accept, hlimit]
    rw [if_neg (Nat.not_lt.mpr hdelay)]

theorem accept_of_late {limit : Duration} (hlimit : s.timeout = some limit)
    (hlate : limit.nanos < r.delay.nanos) : s.accept r = .error (.timeout limit) := by
  simp only [accept, hlimit]
  rw [if_pos hlate]

theorem awaits_or_late (s : Settings) (delay : Duration) :
    s.Awaits delay ∨ ∃ limit, s.timeout = some limit ∧ limit.nanos < delay.nanos := by
  cases hlimit : s.timeout with
  | none => exact Or.inl fun limit h => by rw [hlimit] at h; cases h
  | some limit =>
    by_cases hlate : limit.nanos < delay.nanos
    · exact Or.inr ⟨limit, rfl, hlate⟩
    · refine Or.inl fun limit' h => ?_
      rw [hlimit] at h
      cases h
      exact Nat.not_lt.mp hlate

/-- What is accepted depends on the time that a statement may take, and on no other setting. -/
theorem accept_of_timeout (h : s'.timeout = s.timeout) : s'.accept r = s.accept r := by
  rw [accept, accept, h]

end Settings

namespace Connection

/-! ### Calls and runs -/

variable (c : Connection) (backend : Backend)

/-- The statement of a call: what is compiled for its question, over no parameters. -/
def statement (call : Call) : Except Error Statement :=
  ({ dialect := c.dialect } : Target).build (call.access.query call.query) {}

/-- Calls one after the other: their answers, and the trace that they leave. -/
def askEach : List Call → Trace → List (Except Error Answer) × Trace
  | [], t => ([], t)
  | call :: calls, t =>
    let (answer, t) := c.ask backend call.query call.access t
    let (answers, t) := askEach calls t
    (answer :: answers, t)

/-- **What a call may come to**, with a backend that has got some statements before: an answer, and
the statements that are sent for it. -/
inductive Serves (before : List Statement) (call : Call) :
    Except Error Answer → List Statement → Prop
  /-- A query that does not compile is not sent. -/
  | refused {e : Error} (h : c.statement call = .error e) : Serves before call (.error e) []
  /-- The answer is given up after the time that the statement may take. -/
  | late {s : Statement} {limit : Duration} (h : c.statement call = .ok s)
      (hlimit : c.settings.timeout = some limit)
      (hlate : limit.nanos < (backend before s).delay.nanos) :
      Serves before call (.error (.timeout limit)) [s]
  /-- An error of the backend is the error of the call. -/
  | failed {s : Statement} {e : Error} (h : c.statement call = .ok s)
      (hawaits : c.settings.Awaits (backend before s).delay)
      (hresult : (backend before s).result = .error e) : Serves before call (.error e) [s]
  | answered {s : Statement} {r : ResultSet} (h : c.statement call = .ok s)
      (hawaits : c.settings.Awaits (backend before s).delay)
      (hresult : (backend before s).result = .ok r) : Serves before call (call.access.read r) [s]

/-- **What a run may come to**: every call is served, behind the statements of the calls in front
of it. -/
inductive ServesEach :
    List Statement → List Call → List (Except Error Answer) → List Statement → Prop
  | nil {before : List Statement} : ServesEach before [] [] []
  | cons {before sent rest : List Statement} {call : Call} {calls : List Call}
      {answer : Except Error Answer} {answers : List (Except Error Answer)}
      (head : c.Serves backend before call answer sent)
      (tail : ServesEach (before ++ sent) calls answers rest) :
      ServesEach before (call :: calls) (answer :: answers) (sent ++ rest)

variable {c}

/-! ### One call -/

/-- A query that does not compile leaves no trace. -/
theorem ask_of_error {call : Call} {e : Error} (h : c.statement call = .error e) (t : Trace) :
    c.ask backend call.query call.access t = (.error e, t) := by
  rw [statement] at h
  rw [ask, build, h]

/-- A query that compiles is sent as it was compiled. -/
theorem ask_of_ok {call : Call} {s : Statement} (h : c.statement call = .ok s) (t : Trace) :
    (c.ask backend call.query call.access t).1 =
        (c.settings.accept (backend t.sent s)).bind call.access.read ∧
      (c.ask backend call.query call.access t).2.sent = t.sent ++ [s] := by
  rw [statement] at h
  rw [ask, build, h]
  exact ⟨rfl, rfl⟩

/-- **One call is served.** -/
theorem serves_ask (c : Connection) (backend : Backend) (call : Call) (t : Trace) :
    ∃ sent, (c.ask backend call.query call.access t).2.sent = t.sent ++ sent ∧
      c.Serves backend t.sent call (c.ask backend call.query call.access t).1 sent := by
  cases hstatement : c.statement call with
  | error e =>
    -- nothing is sent
    rw [ask_of_error backend hstatement]
    exact ⟨[], (List.append_nil _).symm, .refused hstatement⟩
  | ok s =>
    -- one statement is sent, and its answer comes in time or too late
    obtain ⟨hanswer, hsent⟩ := ask_of_ok backend hstatement t
    refine ⟨[s], hsent, ?_⟩
    rw [hanswer]
    rcases c.settings.awaits_or_late (backend t.sent s).delay with hawaits | ⟨limit, hlimit, hlate⟩
    · rw [Settings.accept_of_awaits hawaits]
      cases hresult : (backend t.sent s).result with
      | error e => exact .failed hstatement hawaits hresult
      | ok r => exact .answered hstatement hawaits hresult
    · rw [Settings.accept_of_late hlimit hlate]
      exact .late hstatement hlimit hlate

/-- The statement that is sent is the one that was compiled. -/
theorem Serves.sent_eq {backend : Backend} {before sent : List Statement} {call : Call}
    {answer : Except Error Answer} (h : c.Serves backend before call answer sent) :
    sent = (c.statement call).toOption.toList := by
  cases h with
  | refused h => rw [h]; rfl
  | late h => rw [h]; rfl
  | failed h => rw [h]; rfl
  | answered h => rw [h]; rfl

/-! ### Runs -/

/-- **A run serves its calls**, one after the other. -/
theorem servesEach_askEach (c : Connection) (backend : Backend) (calls : List Call) (t : Trace) :
    ∃ sent, (c.askEach backend calls t).2.sent = t.sent ++ sent ∧
      c.ServesEach backend t.sent calls (c.askEach backend calls t).1 sent := by
  induction calls generalizing t with
  | nil => exact ⟨[], (List.append_nil _).symm, .nil⟩
  | cons call calls ih =>
    obtain ⟨sent, hsent, hserves⟩ := c.serves_ask backend call t
    -- the other calls go on from the trace that the first one has left
    obtain ⟨rest, hrest, heach⟩ := ih (c.ask backend call.query call.access t).2
    rw [hsent] at hrest heach
    refine ⟨sent ++ rest, ?_, .cons hserves heach⟩
    rw [← List.append_assoc]
    exact hrest

/-- In a run, every query that compiles is sent once, in the order of the calls. -/
theorem ServesEach.sent_eq {backend : Backend} {before sent : List Statement}
    {calls : List Call} {answers : List (Except Error Answer)}
    (h : c.ServesEach backend before calls answers sent) :
    sent = calls.filterMap fun call => (c.statement call).toOption := by
  induction h with
  | nil => rfl
  | @cons _ sent rest call calls _ _ head _ ih =>
    rw [head.sent_eq, ih, List.filterMap_cons]
    cases (c.statement call).toOption <;> rfl

/-! ### Settings -/

/-- **Logging has no part in an answer.** A call with other settings, but the same time that a
statement may take, has the same answer and sends the same statements. -/
theorem ask_of_timeout {settings : Settings} (h : settings.timeout = c.settings.timeout)
    (call : Call) {t t' : Trace} (ht : t'.sent = t.sent) :
    (({ c with settings } : Connection).ask backend call.query call.access t').1 =
        (c.ask backend call.query call.access t).1 ∧
      (({ c with settings } : Connection).ask backend call.query call.access t').2.sent =
        (c.ask backend call.query call.access t).2.sent := by
  cases hstatement : c.statement call with
  | error e =>
    have hstatement' : ({ c with settings } : Connection).statement call = .error e := hstatement
    rw [ask_of_error backend hstatement, ask_of_error backend hstatement']
    exact ⟨rfl, ht⟩
  | ok s =>
    have hstatement' : ({ c with settings } : Connection).statement call = .ok s := hstatement
    obtain ⟨hanswer, hsent⟩ := ask_of_ok backend hstatement t
    obtain ⟨hanswer', hsent'⟩ := ask_of_ok backend hstatement' t'
    rw [hanswer, hsent, hanswer', hsent', ht]
    exact ⟨congrArg (·.bind call.access.read) (Settings.accept_of_timeout h), rfl⟩

theorem askEach_of_timeout {settings : Settings} (h : settings.timeout = c.settings.timeout)
    (calls : List Call) {t t' : Trace} (ht : t'.sent = t.sent) :
    (({ c with settings } : Connection).askEach backend calls t').1 =
        (c.askEach backend calls t).1 ∧
      (({ c with settings } : Connection).askEach backend calls t').2.sent =
        (c.askEach backend calls t).2.sent := by
  induction calls generalizing t t' with
  | nil => exact ⟨rfl, ht⟩
  | cons call calls ih =>
    obtain ⟨hanswer, hsent⟩ := ask_of_timeout backend h call ht
    -- the traces differ in events only, so the other calls do not see the difference
    obtain ⟨hanswers, hrest⟩ := ih hsent
    exact ⟨List.cons_eq_cons.mpr ⟨hanswer, hanswers⟩, hrest⟩

/-- **Every statement is sent once.** In every run on a connection, whatever the backend answers,
every call is served: a query that does not compile is refused with its error and sends nothing,
and any other sends the statement that was compiled for it, with all its parameters, and once; an
error of the backend is given back unchanged. With other settings, but the same time that a
statement may take, all answers and all statements sent are the same. -/
theorem delivers (c : Connection) (backend : Backend) (calls : List Call) (t : Trace) :
    (∃ sent, (c.askEach backend calls t).2.sent = t.sent ++ sent ∧
      c.ServesEach backend t.sent calls (c.askEach backend calls t).1 sent ∧
      sent = calls.filterMap fun call => (c.statement call).toOption) ∧
    ∀ settings : Settings, settings.timeout = c.settings.timeout →
      (({ c with settings } : Connection).askEach backend calls t).1 =
          (c.askEach backend calls t).1 ∧
        (({ c with settings } : Connection).askEach backend calls t).2.sent =
          (c.askEach backend calls t).2.sent := by
  constructor
  · obtain ⟨sent, hsent, heach⟩ := c.servesEach_askEach backend calls t
    exact ⟨sent, hsent, heach, heach.sent_eq⟩
  · intro settings h
    exact askEach_of_timeout backend h calls rfl

/-- A query that does not compile, an error of the backend, an answer that is too late and one
that is read, with other settings for the log. -/
theorem delivers_quietly :
    let q : Query := ⟨{ tables := [.bare "t"], filter := some (.eq "a" (.value (.int 1))) }⟩
    let calls : List Call := [⟨⟨{ joins := [⟨"", none, none⟩] }⟩, .all⟩, ⟨q, .all⟩, ⟨q, .one⟩,
      ⟨q, .count "*"⟩]
    let backend : Backend := fun before _ =>
      if before.length = 0 then { result := .error (.execution "down") }
      else if before.length = 1 then { result := .ok {}, delay := ⟨2⟩ }
      else { result := .ok { rows := [⟨[("n", .int 3)]⟩] } }
    let c : Connection := { dialect := Dialect.postgres, settings := { timeout := some ⟨1⟩ } }
    let quiet : Settings :=
      { timeout := some ⟨1⟩, slowThreshold := some ⟨0⟩, logging := false, maxSqlLength := some 3 }
    quiet.timeout = c.settings.timeout ∧
      (c.askEach backend calls {}).1.map (·.isOk) = [false, false, false, true] ∧
      (c.askEach backend calls {}).2.sent.map (·.sql) =
        ["SELECT * FROM \x22t\x22 WHERE \x22a\x22=:qp0",
          "SELECT * FROM \x22t\x22 WHERE \x22a\x22=:qp0",
          "SELECT COUNT(*) FROM \x22t\x22 WHERE \x22a\x22=:qp0"] ∧
      (({ c with settings := quiet } : Connection).askEach backend calls {}).1 =
        (c.askEach backend calls {}).1 ∧
      (({ c with settings := quiet } : Connection).askEach backend calls {}).2.sent =
        (c.askEach backend calls {}).2.sent := by
  intro q calls backend c quiet
  exact ⟨rfl, by decide +kernel, by decide +kernel, (delivers c backend calls {}).2 quiet rfl⟩

end Connection

end SqlCompose
