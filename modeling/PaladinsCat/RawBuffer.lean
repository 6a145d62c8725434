import PaladinsCat.RelayPayload

/-!
The raw ingest buffer (workers/raw_buffer.rs): its rows are claimed, renewed, finished and,
when a worker has not been heard of for a while, reset. A claim is a status and a time in
the row; it does not say whose it is. The worker is modelled as far as the rows are
concerned: what its processing of a payload does elsewhere is a reply from outside.
-/

namespace PaladinsCat.RawBuffer

open Interleaving Program
open Hirez (Value)
open Backend (asArray)

/-! ### Rows -/

inductive BufferStatus where
  | pending
  | processing
  | processed
  | failed
  deriving DecidableEq

/-- Times are in microseconds. -/
structure BufferRow where
  endpoint : String := ""
  entityType : String := "match"
  entityId : Option String := none
  rawData : Value := .null
  status : BufferStatus := .pending
  retryCount : Int := 0
  errorMessage : Option String := none
  createdAt : Int := 0
  availableAt : Int := 0
  processedAt : Option Int := none

structure ClaimedRow where
  id : Int
  rawData : Value
  endpoint : String
  entityType : String
  entityId : String
  retryCount : Int
  priority : Int

structure Buffer where
  rows : Int → Option BufferRow := fun _ => none
  clock : Int := 0

def minutes (count : Int) : Int := count * 60000000

def maxRetries : Int := 3

inductive RawBufferError where
  | database
  | unsupported (rowId : Int) (entityType endpoint : String)
  | invalid (message : String)

def RawBufferError.isUnsupported : RawBufferError → Bool
  | .unsupported _ _ _ => true
  | _ => false

def RawBufferError.toString : RawBufferError → String
  | .database => "PostgreSQL query error"
  | .unsupported rowId entityType endpoint => s!"raw buffer row {rowId} has unsupported entity type {entityType} ({endpoint})"
  | .invalid message => message

/-! ### Statements -/

inductive BufferOp where
  | recoverStale (rowId : Option Int)
  | claim (limit : Int)
  | renew (rowId : Int)
  | renewRows (ids : List Int)
  /-- Back to `pending` with a message, whatever the status is. -/
  | retain (rowId : Int) (message : String)
  | markProcessed (rowId : Int)
  | markFailedOrDeferred (rowId retry : Int) (terminal factsDurable : Bool) (message : String)
  | returnClaims (ids : List Int)
  | processRow (row : ClaimedRow) (factsOnly : Bool)
  | isLimited (entityId : String)
  | factsDurable (entityId : String)

abbrev BufferOp.Result : BufferOp → Type
  | .claim _ => List ClaimedRow
  | .renew _ | .isLimited _ | .factsDurable _ => Bool
  | .processRow _ _ => Except RawBufferError Unit
  | _ => Unit

abbrev BufferOp.Reply (op : BufferOp) : Type := Except Unit op.Result

inductive Fate where
  | answered
  | rolledBack
  | unacknowledged

structure Outside where
  now : Int := 0
  fate : Fate := .answered
  /-- The rows that a claim picks, with their priorities. -/
  picked : List (Int × Int) := []
  /-- The row is about a match whose facts are durable. -/
  durable : BufferRow → Bool := fun _ => false
  processed : Except RawBufferError Unit := .ok ()
  limited : Bool := false

def updateRow (buffer : Buffer) (rowId : Int) (update : BufferRow → BufferRow) : Buffer :=
  { buffer with rows := Function.update buffer.rows rowId ((buffer.rows rowId).map update) }

def updateRows (buffer : Buffer) (update : Int → BufferRow → BufferRow) : Buffer :=
  { buffer with rows := fun rowId => (buffer.rows rowId).map (update rowId) }

/-- `processed_at` (or, without one, `created_at`) is so old that the claim counts as abandoned. -/
def isStale (now : Int) (row : BufferRow) : Bool :=
  decide (row.status = .processing) &&
    match row.processedAt with
    | some processedAt => decide (processedAt < now - minutes 15)
    | none => decide (row.createdAt < now - minutes 30)

/-- `concat_ws(' | ', nullif(error_message, ''), …)`. -/
def staleMessage (message : Option String) : String :=
  match message.filter (· ≠ "") with
  | some earlier => earlier ++ " | " ++ "stale processing lease reset"
  | none => "stale processing lease reset"

def resetStale (now : Int) (durable : Bool) (row : BufferRow) : BufferRow :=
  { row with
    status := if durable then .pending else if maxRetries - 1 ≤ row.retryCount then .failed else .pending
    retryCount := row.retryCount + 1
    errorMessage := some (staleMessage row.errorMessage)
    processedAt := none
    availableAt := if durable then now + minutes 5 else row.availableAt }

/-- Which of the due rows a claim takes, in which order and how many, is up to the other columns, to the
limit and to the locks of other claims. -/
def claimable (now : Int) (row : BufferRow) : Bool := row.status = .pending ∧ row.availableAt ≤ now

def claimedRow (rowId priority : Int) (row : BufferRow) : ClaimedRow where
  id := rowId
  rawData := row.rawData
  endpoint := row.endpoint
  entityType := row.entityType
  entityId := row.entityId.getD ""
  retryCount := row.retryCount
  priority := priority

def retryDelay (retry : Int) : Int := min (2 ^ (min retry 8).toNat) 300

/-- What a statement does, with its result; `none` where it cannot go on so. -/
def execute (buffer : Buffer) (outside : Outside) : (op : BufferOp) → Option (op.Result × Buffer)
  | .recoverStale only =>
      some ((), updateRows buffer fun rowId row =>
        if isStale outside.now row ∧ only.all (· = rowId) = true then resetStale outside.now (outside.durable row) row
        else row)
  | .claim limit =>
      if outside.picked.length ≤ limit ∧ (outside.picked.map (·.1)).Nodup ∧
          outside.picked.all (fun (rowId, _) => (buffer.rows rowId).any (claimable outside.now)) = true then
        some (outside.picked.filterMap fun (rowId, priority) => (buffer.rows rowId).map (claimedRow rowId priority),
          updateRows buffer fun rowId row =>
            if rowId ∈ outside.picked.map (·.1) then { row with status := .processing, processedAt := some outside.now }
            else row)
      else none
  | .renew rowId =>
      some ((buffer.rows rowId).any fun row => row.status = .processing,
        updateRow buffer rowId fun row =>
          if row.status = .processing then { row with processedAt := some outside.now } else row)
  | .renewRows ids =>
      some ((), updateRows buffer fun rowId row =>
        if rowId ∈ ids ∧ row.status = .processing then { row with processedAt := some outside.now } else row)
  | .retain rowId message =>
      some ((), updateRow buffer rowId fun row =>
        { row with status := .pending, errorMessage := some message, processedAt := none })
  | .markProcessed rowId =>
      some ((), updateRow buffer rowId fun row =>
        { row with status := .processed, processedAt := some outside.now, errorMessage := none })
  | .markFailedOrDeferred rowId retry terminal factsDurable message =>
      some ((), updateRow buffer rowId fun row =>
        { row with
          status := if terminal then .failed else .pending
          retryCount := retry
          errorMessage := some (String.ofList (message.toList.take 4000))
          processedAt := if terminal then some outside.now else none
          availableAt :=
            if terminal then row.availableAt
            else if factsDurable then outside.now + retryDelay retry * 1000000
            else row.availableAt })
  | .returnClaims ids =>
      some ((), updateRows buffer fun rowId row =>
        if rowId ∈ ids ∧ row.status = .processing then { row with status := .pending, processedAt := none } else row)
  | .processRow _ _ => some (outside.processed, buffer)
  | .isLimited _ => some (outside.limited, buffer)
  | .factsDurable entityId => some (outside.durable { entityId := some entityId }, buffer)

def serve : Service Buffer BufferOp BufferOp.Reply Outside := fun buffer op outside =>
  if outside.now < buffer.clock then none
  else
    match execute buffer outside op, outside.fate with
    | none, _ => none
    | some (result, after), .answered => some (.ok result, { after with clock := outside.now })
    | some _, .rolledBack => some (.error (), { buffer with clock := outside.now })
    | some (_, after), .unacknowledged => some (.error (), { after with clock := outside.now })

/-! ### Workers -/

abbrev BufferProgram := Program BufferOp BufferOp.Reply

structure RawBufferBatchResult where
  processed : Nat := 0
  failed : Nat := 0
  deferred : Nat := 0

def text (value : Value) (key : String) : String := ((value.get key).bind Value.asStr).getD ""

def matchPayloadRequiresRecovery (raw : Value) : Bool :=
  (asArray raw).any fun rows =>
    rows.length < 10 || rows.any (fun row => Text.trim (text row "ret_msg") != "") ||
      rows.any fun row => Text.eqIgnoreAsciiCase (text row "source") "recovered"

/-- The next retry count, as an `i32`. -/
def nextRetry (retryCount : Int) : Int := min (retryCount + 1) (2 ^ 31 - 1)

def ended (statement : BufferProgram (Except Unit Unit)) (result : RawBufferBatchResult) :
    BufferProgram (Except Unit RawBufferBatchResult) := do
  let done ← statement
  pure (done.map fun _ => result)

/-- What follows an error of the processing. -/
def processFailed (row : ClaimedRow) (error : RawBufferError) : BufferProgram (Except Unit RawBufferBatchResult) := do
  let retry := nextRetry row.retryCount
  let durable : Except Unit Bool ←
    if Text.eqIgnoreAsciiCase row.entityType "match" then perform (BufferOp.factsDurable row.entityId) else pure (.ok false)
  match durable with
  | .error error => pure (.error error)
  | .ok factsDurable =>
      let terminal := !factsDurable && (decide (maxRetries ≤ retry) || error.isUnsupported)
      ended (perform (BufferOp.markFailedOrDeferred row.id retry terminal factsDurable error.toString))
        (if terminal then { failed := 1 } else { deferred := 1 })

def processClaimedRow (row : ClaimedRow) (hasApiHeadroom factsOnly : Bool) :
    BufferProgram (Except Unit RawBufferBatchResult) := do
  let renewed : Except Unit Bool ← perform (BufferOp.renew row.id)
  match renewed with
  | .error error => pure (.error error)
  | .ok false => pure (.ok {})
  | .ok true =>
      if !hasApiHeadroom && Text.eqIgnoreAsciiCase row.entityType "match" && matchPayloadRequiresRecovery row.rawData then
        ended (perform (BufferOp.retain row.id "quota pause: recovery-required match retained pending")) { deferred := 1 }
      else do
        let outcome : Except Unit (Except RawBufferError Unit) ← perform (BufferOp.processRow row factsOnly)
        match outcome with
        | .error _ => processFailed row .database
        | .ok (.error error) => processFailed row error
        | .ok (.ok _) =>
            if factsOnly then do
              let limited : Except Unit Bool ← perform (BufferOp.isLimited row.entityId)
              match limited with
              | .error error => pure (.error error)
              | .ok true => ended (perform (BufferOp.markProcessed row.id)) { processed := 1 }
              | .ok false =>
                  ended (perform (BufferOp.retain row.id "match facts durable; background projections pending"))
                    { deferred := 1 }
            else ended (perform (BufferOp.markProcessed row.id)) { processed := 1 }

/-- The claimed rows, one after the other. -/
def processClaimedRows (hasApiHeadroom : Bool) : List ClaimedRow → BufferProgram (Except Unit Unit)
  | [] => pure (.ok ())
  | row :: rest => do
      let factsOnly := Text.eqIgnoreAsciiCase row.entityType "match" && decide (row.priority ≤ 1)
      match ← processClaimedRow row hasApiHeadroom factsOnly with
      | .ok _ => processClaimedRows hasApiHeadroom rest
      | .error error => do
          let _ ← perform (BufferOp.returnClaims ((row :: rest).map (·.id)))
          pure (.error error)

structure BatchCall where
  batchSize : Nat
  hasApiHeadroom : Bool

/-- One batch of a worker, with its rows in one lane. -/
def processRawBufferBatch (call : BatchCall) : BufferProgram (Except Unit Unit) := do
  let recovered : Except Unit Unit ← perform (BufferOp.recoverStale none)
  match recovered with
  | .error error => pure (.error error)
  | .ok _ =>
      let claimed : Except Unit (List ClaimedRow) ← perform (BufferOp.claim (max call.batchSize 1))
      match claimed with
      | .error error => pure (.error error)
      | .ok rows => processClaimedRows call.hasApiHeadroom rows

end PaladinsCat.RawBuffer
