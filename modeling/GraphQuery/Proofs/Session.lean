import GraphQuery.Proofs.Compile
import GraphQuery.Proofs.Record.RoundTrip
import GraphQuery.Session

namespace GraphQuery

namespace Session

/-- The ways to ask a query, by what is made of the result. -/
inductive Request : Type → Type 1 where
  | run : Request ResultSet
  | fetchAll {α : Type} (model : Model α) : Request (List α)
  | fetchOne {α : Type} (model : Model α) : Request α
  | fetchFirst {α : Type} (model : Model α) : Request (Option α)
  | execute : Request Nat

namespace Request

variable {α : Type}

/-- Asks a query of a session. -/
def perform (session : Session) (query : Query) :
    {α : Type} → Request α → Session × Except SessionError α
  | _, run => session.run query
  | _, fetchAll model => session.fetchAll model query
  | _, fetchOne model => session.fetchOne model query
  | _, fetchFirst model => session.fetchFirst model query
  | _, execute => session.execute query

/-- What a result is read as. -/
def read (result : ResultSet) : {α : Type} → Request α → Except DecodeError α
  | _, run => .ok result
  | _, fetchAll model => model.decodeAll result
  | _, fetchOne model => model.decodeOne result
  | _, fetchFirst model => model.decodeFirst result
  | _, execute => .ok result.size

/-- What is made of the answer to a statement. Without an answer there is an empty result. -/
def readReply (request : Request α) : Option Reply → Except SessionError α
  | none => (request.read .empty).mapError .decode
  | some (.result result) => (request.read result).mapError .decode
  | some (.failure text) => .error (.execution text)

/-- What comes of a query, given the answer to its statement. -/
def outcome (config : Config) (query : Query) (request : Request α) (reply? : Option Reply) :
    Except SessionError α :=
  match compile config query with
  | .error error => .error (.query error)
  | .ok _ => request.readReply reply?

end Request

/-- One use of a session: the engine is told an answer to give, or a query is asked. -/
inductive Call : Type 1 where
  | push (reply : Reply)
  | ask {α : Type} (request : Request α) (query : Query)

namespace Call

/-- The session after a call. -/
def apply (session : Session) : Call → Session
  | push reply => session.push reply
  | ask request query => (request.perform session query).1

/-- The answer that a call tells the engine to give. -/
def reply? : Call → Option Reply
  | push reply => some reply
  | ask .. => none

/-- The statement that a call executes: that of its query, if the query compiles. -/
def statement? (config : Config) : Call → Option Statement
  | push _ => none
  | ask _ query => (compile config query).toOption

end Call

/-- A new session after some calls. -/
def after (config : Config) (calls : List Call) : Session :=
  calls.foldl Call.apply { config }

/-- All answers that the engine is told to give, in order. -/
def replies (calls : List Call) : List Reply :=
  calls.filterMap Call.reply?

/-- The statements of all queries that compile, in order. -/
def statements (config : Config) (calls : List Call) : List Statement :=
  calls.filterMap (Call.statement? config)

/-- How many answers have been given after the first calls: each call that executes a statement
    takes one if there is one that was not given yet. -/
def given (config : Config) (calls : List Call) : Nat → Nat
  | 0 => 0
  | n + 1 =>
    match calls[n]?.bind (Call.statement? config) with
    | none => given config calls n
    | some _ =>
      if given config calls n < (replies (calls.take n)).length then given config calls n + 1
      else given config calls n

variable {α : Type} {config : Config} {session : Session} {query : Query} {request : Request α}

/-- All ways to ask a query run it and read the result. -/
theorem Request.perform_eq (session : Session) (query : Query) (request : Request α) :
    request.perform session query = session.runWith query (request.read ·) := by
  cases request with
  | run =>
    unfold perform runWith
    rcases session.run query with ⟨after, _ | _⟩ <;> rfl
  | _ => rfl

/-- A query that does not compile leaves the session alone. -/
theorem Request.perform_of_error {error : QueryError}
    (hcompile : compile session.config query = .error error) :
    request.perform session query = (session, .error (.query error)) := by
  simp only [perform_eq, runWith, Session.run, hcompile]
  rfl

/-- A query that compiles is executed and takes the first answer, whatever is read off it. -/
theorem Request.perform_of_ok {statement : Statement}
    (hcompile : compile session.config query = .ok statement) :
    request.perform session query =
      ({ session with
          engine := ⟨session.engine.pending.tail, session.engine.executed ++ [statement]⟩ },
        request.readReply session.engine.pending.head?) := by
  simp only [perform_eq, runWith, Session.run, hcompile, runStatement, Engine.execute]
  rcases session.engine.pending with _ | ⟨_ | _, pending⟩ <;> rfl

variable {calls : List Call} {call : Call} {n : Nat}

theorem filterMap_take_succ {β : Type} (f : Call → Option β) (hcall : calls[n]? = some call) :
    (calls.take (n + 1)).filterMap f = (calls.take n).filterMap f ++ (f call).toList := by
  rw [List.take_add_one, hcall, Option.toList_some, List.filterMap_append]
  cases hvalue : f call <;> simp [hvalue]

theorem replies_take_succ (hcall : calls[n]? = some call) :
    replies (calls.take (n + 1)) = replies (calls.take n) ++ call.reply?.toList :=
  filterMap_take_succ _ hcall

theorem statements_take_succ (hcall : calls[n]? = some call) :
    statements config (calls.take (n + 1)) =
      statements config (calls.take n) ++ (call.statement? config).toList :=
  filterMap_take_succ _ hcall

theorem given_succ (hcall : calls[n]? = some call) :
    given config calls (n + 1) =
      match call.statement? config with
      | none => given config calls n
      | some _ =>
        if given config calls n < (replies (calls.take n)).length then given config calls n + 1
        else given config calls n := by
  rw [given, hcall, Option.bind_some]

/-- What a session is after the first calls of a list: it has executed the statements of all queries
    among them that compile, and its engine is still to give the answers that were not given. -/
structure Tracks (config : Config) (calls : List Call) (n : Nat) (session : Session) : Prop where
  config_eq : session.config = config
  executed_eq : session.engine.executed = statements config (calls.take n)
  given_le : given config calls n ≤ (replies (calls.take n)).length
  pending_eq : session.engine.pending = (replies (calls.take n)).drop (given config calls n)

namespace Tracks

/-- The next answer is the oldest one that was not given. -/
theorem head?_pending (htracks : Tracks config calls n session) :
    session.engine.pending.head? = (replies (calls.take n))[given config calls n]? := by
  rw [htracks.pending_eq, List.head?_drop]

theorem outcome_eq (htracks : Tracks config calls n session) (query : Query)
    (request : Request α) :
    (request.perform session query).2 =
      request.outcome config query (replies (calls.take n))[given config calls n]? := by
  rw [Request.outcome, ← htracks.head?_pending]
  cases hcompile : compile config query with
  | error error => rw [Request.perform_of_error (htracks.config_eq ▸ hcompile)]
  | ok statement => rw [Request.perform_of_ok (htracks.config_eq ▸ hcompile)]

theorem push (htracks : Tracks config calls n session) {reply : Reply}
    (hcall : calls[n]? = some (.push reply)) :
    Tracks config calls (n + 1) (session.push reply) := by
  have hgiven : given config calls (n + 1) = given config calls n := given_succ hcall
  constructor
  · exact htracks.config_eq
  · rw [statements_take_succ hcall]
    exact htracks.executed_eq.trans (List.append_nil _).symm
  · rw [hgiven, replies_take_succ hcall, List.length_append]
    exact Nat.le_add_right_of_le htracks.given_le
  · rw [hgiven, replies_take_succ hcall, List.drop_append_of_le_length htracks.given_le,
      ← htracks.pending_eq]
    rfl

/-- Where nothing is told and nothing is executed, nothing changes. -/
theorem idle (htracks : Tracks config calls n session)
    (hreplies : replies (calls.take (n + 1)) = replies (calls.take n))
    (hstatements : statements config (calls.take (n + 1)) = statements config (calls.take n))
    (hgiven : given config calls (n + 1) = given config calls n) :
    Tracks config calls (n + 1) session := by
  obtain ⟨hconfig, hexecuted, hle, hpending⟩ := htracks
  rw [← hstatements] at hexecuted
  rw [← hreplies, ← hgiven] at hle hpending
  exact ⟨hconfig, hexecuted, hle, hpending⟩

/-- A query that does not compile is as if it had not been asked. -/
theorem refused (htracks : Tracks config calls n session)
    (hcall : calls[n]? = some (.ask request query)) {error : QueryError}
    (hcompile : compile config query = .error error) :
    Tracks config calls (n + 1) session := by
  have hstatement : (Call.ask request query).statement? config = none := by
    rw [Call.statement?, hcompile]
    rfl
  apply htracks.idle
  · rw [replies_take_succ hcall]
    exact List.append_nil _
  · rw [statements_take_succ hcall, hstatement]
    exact List.append_nil _
  · rw [given_succ hcall, hstatement]

/-- A query that compiles adds its statement and takes an answer if there is one. -/
theorem executed (htracks : Tracks config calls n session)
    (hcall : calls[n]? = some (.ask request query)) {statement : Statement}
    (hcompile : compile config query = .ok statement) :
    Tracks config calls (n + 1)
      { session with
        engine := ⟨session.engine.pending.tail, session.engine.executed ++ [statement]⟩ } := by
  have hstatement : (Call.ask request query).statement? config = some statement := by
    rw [Call.statement?, hcompile]
    rfl
  have hgiven : given config calls (n + 1) =
      if given config calls n < (replies (calls.take n)).length then given config calls n + 1
      else given config calls n := by
    rw [given_succ hcall, hstatement]
  have hreplies : replies (calls.take (n + 1)) = replies (calls.take n) := by
    rw [replies_take_succ hcall]
    exact List.append_nil _
  have hle := htracks.given_le
  constructor
  · exact htracks.config_eq
  · rw [statements_take_succ hcall, hstatement, htracks.executed_eq]
    rfl
  · rw [hgiven, hreplies]
    split <;> omega
  · rw [hgiven, hreplies, htracks.pending_eq, List.tail_drop]
    split
    · rfl
    -- No answer was left before either.
    · rw [List.drop_of_length_le (by omega), List.drop_of_length_le (by omega)]

/-- One call. -/
theorem apply (htracks : Tracks config calls n session) (hcall : calls[n]? = some call) :
    Tracks config calls (n + 1) (call.apply session) := by
  cases call with
  | push reply => exact htracks.push hcall
  | ask request query =>
    rw [Call.apply]
    cases hcompile : compile config query with
    | error error =>
      rw [Request.perform_of_error (htracks.config_eq ▸ hcompile)]
      exact htracks.refused hcall hcompile
    | ok statement =>
      rw [Request.perform_of_ok (htracks.config_eq ▸ hcompile)]
      exact htracks.executed hcall hcompile

/-- Behind the last call nothing changes. -/
theorem past (htracks : Tracks config calls n session) (hcall : calls[n]? = none) :
    Tracks config calls (n + 1) session := by
  have htake : calls.take (n + 1) = calls.take n := by
    rw [List.take_add_one, hcall, Option.toList_none, List.append_nil]
  apply htracks.idle
  · rw [htake]
  · rw [htake]
  · rw [given, hcall]
    rfl

end Tracks

theorem tracks_after (config : Config) (calls : List Call) (n : Nat) :
    Tracks config calls n (after config (calls.take n)) := by
  induction n with
  | zero => exact ⟨rfl, rfl, Nat.le_refl _, rfl⟩
  | succ n ih =>
    rw [after, List.take_add_one]
    cases hcall : calls[n]? with
    | none =>
      rw [Option.toList_none, List.append_nil]
      exact ih.past hcall
    | some call =>
      rw [Option.toList_some, List.foldl_concat]
      exact ih.apply hcall

/-- A session executes exactly what compiles, in order, and gives answers first in, first out. At
    any time the statements of the queries that compile have been executed, and the answers that no
    query took are still to be given, in their order. The next query fails if it does not compile,
    without any effect, and otherwise is given the oldest of these answers, or an empty result if
    there is none. -/
theorem answers_replayed (config : Config) (calls : List Call) (n : Nat) :
    (after config (calls.take n)).engine.executed = statements config (calls.take n) ∧
      (after config (calls.take n)).engine.pending =
        (replies (calls.take n)).drop (given config calls n) ∧
      (after config (calls.take n)).engine.pending.length + given config calls n =
        (replies (calls.take n)).length ∧
      ∀ {α : Type} (request : Request α) (query : Query),
        (request.perform (after config (calls.take n)) query).2 =
            request.outcome config query (replies (calls.take n))[given config calls n]? ∧
          ∀ error, compile config query = .error error →
            (request.perform (after config (calls.take n)) query).1 =
              after config (calls.take n) := by
  have htracks := tracks_after config calls n
  refine ⟨htracks.executed_eq, htracks.pending_eq, ?_, fun request query =>
    ⟨htracks.outcome_eq query request, fun error hcompile => ?_⟩⟩
  · rw [htracks.pending_eq, List.length_drop]
    exact Nat.sub_add_cancel htracks.given_le
  · rw [Request.perform_of_error (htracks.config_eq ▸ hcompile)]

/-- A query before there are any answers, two answers, a query that does not compile, and one whose
    result cannot be read. -/
def script : List Call :=
  [.ask .execute friendsOfAda, .push (.result ⟨["n"], [[.bool true]]⟩),
    .push (.failure "the table is locked"), .ask .run [], .ask (.fetchAll accounts) friendsOfAda]

/-- The next query is given the second answer: of the others only the last one took one. -/
theorem script_answers_replayed :
    (Request.execute.perform (after (.plain {}) (script.take 5)) friendsOfAda).2 =
        .error (.execution "the table is locked") ∧
      (after (.plain {}) (script.take 5)).engine.executed.length = 2 ∧
      (Request.run.perform (after (.plain {}) (script.take 5)) []).1 =
        after (.plain {}) (script.take 5) := by
  obtain ⟨statement, hcompile⟩ :=
    Except.exists_eq_ok (compile (.plain {}) friendsOfAda) (by decide +kernel)
  have hgiven : given (.plain {}) script 5 = 1 := by decide +kernel
  obtain ⟨hexecuted, _, _, hnext⟩ := answers_replayed (.plain {}) script 5
  refine ⟨?_, ?_, (hnext .run []).2 (.failure none "query" .emptyQuery) rfl⟩
  · rw [(hnext .execute friendsOfAda).1, hgiven, Request.outcome, hcompile]
    rfl
  · rw [hexecuted]
    decide +kernel

end Session

end GraphQuery
