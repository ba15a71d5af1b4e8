import Mathlib.Logic.Function.Basic
import FoodDelivery.Lib.History
import FoodDelivery.Messaging.Envelope

namespace FoodDelivery.NotificationService

open Messaging

inductive NotificationStatus
  | pending
  | sent
  | failed
  | dead
  deriving DecidableEq, Repr

inductive ChannelName
  | email
  | sms
  | push
  deriving DecidableEq, Repr

def channelNames : List ChannelName := [.email, .sms, .push]

structure Notification where
  id : Uuid
  tenantId : Uuid
  eventId : Uuid
  channel : ChannelName
  recipient : String
  type : String
  status : NotificationStatus
  attempts : Nat
  error : Option String
  deriving DecidableEq, Repr

structure Recipient where
  email : String
  phone : String
  pushToken : String
  deriving DecidableEq, Repr

def recipientFor : ChannelName → Recipient → String
  | .email, recipient => recipient.email
  | .sms, recipient => recipient.phone
  | .push, recipient => recipient.pushToken

/-- NOTIFY_MAX_ATTEMPTS and NOTIFY_<channel>_ENABLED. -/
structure Config where
  maxAttempts : Nat
  enabled : ChannelName → Bool

def Config.enabledChannels (config : Config) : List ChannelName := channelNames.filter config.enabled

/-- The envelope and the payload of an event on order.events, as far as they are read. -/
structure OrderEvent where
  eventId : Uuid
  eventType : EventType
  tenantId : Uuid
  orderId : Uuid
  deriving DecidableEq, Repr

/-- NOTIFICATION_TYPE. -/
def notificationType : EventType → Option String
  | .orderConfirmed => some "order-confirmed"
  | .orderCancelled => some "order-cancelled"
  | _ => none

/-- The row that `createPendingBatch` saves for a channel. -/
def pendingRow (event : OrderEvent) (type : String) (recipient : Recipient) (ids : ChannelName → Uuid)
    (channel : ChannelName) : Notification where
  id := ids channel
  tenantId := event.tenantId
  eventId := event.eventId
  channel := channel
  recipient := recipientFor channel recipient
  type := type
  status := .pending
  attempts := 0
  error := none

def findPendingByEvent (rows : List Notification) (tenantId eventId : Uuid) : List Notification :=
  rows.filter fun row => row.tenantId = tenantId ∧ row.eventId = eventId ∧ row.status = .pending

/-- `update({ id }, …)`, whatever the row's status. -/
def updateById (rows : List Notification) (id : Uuid) (write : Notification → Notification) : List Notification :=
  rows.map fun row => if row.id = id then write row else row

def markSent (rows : List Notification) (id : Uuid) : List Notification :=
  updateById rows id fun row => { row with status := .sent, error := none }

def markFailed (rows : List Notification) (id : Uuid) (attempts : Nat) (error : String) : List Notification :=
  updateById rows id fun row => { row with status := .failed, attempts, error := some error }

def markDead (rows : List Notification) (id : Uuid) (attempts : Nat) (error : String) : List Notification :=
  updateById rows id fun row => { row with status := .dead, attempts, error := some error }

/-- A job's payload; its `data` is the order's id. -/
structure NotificationJobPayload where
  notificationId : Uuid
  channel : ChannelName
  type : String
  recipient : String
  tenantId : Uuid
  orderId : Uuid
  deriving DecidableEq, Repr

def jobPayload (event : OrderEvent) (notification : Notification) : NotificationJobPayload where
  notificationId := notification.id
  channel := notification.channel
  type := notification.type
  recipient := notification.recipient
  tenantId := notification.tenantId
  orderId := event.orderId

/-- Where a job is in its queue and in `SendNotificationHandler.execute`: the
row has been found unsent, the channel's `send` has returned, or `execute` has. -/
inductive JobPhase
  | waiting
  | started
  | found
  | delivered
  | succeeded
  | exhausted
  deriving DecidableEq, Repr

structure Job where
  payload : NotificationJobPayload
  attemptsMade : Nat
  phase : JobPhase
  deriving DecidableEq, Repr

/-- A call of `HandleSendFailureHandler.execute` that has not returned. -/
structure Failure where
  payload : NotificationJobPayload
  attemptsMade : Nat
  error : String
  parked : Bool
  deriving DecidableEq, Repr

/-- A call of `DispatchOrderEventHandler.execute`. -/
inductive Dispatch
  | idle
  | created
  | enqueuing (pending : List Notification)
  | returned
  | failed
  deriving DecidableEq, Repr

/-- What the service keeps for one order event: its rows, whether its id
stands in processed_events, the jobs by id, notify-dlq and the calls under way.
Which jobs were ever enqueued and which rows a markSent reached is kept for
the statements only. -/
structure Service where
  rows : List Notification
  processed : Bool
  jobs : Uuid → Option Job
  notifyDlq : List (NotificationJobPayload × String)
  failures : List Failure
  dispatches : Nat → Dispatch
  acknowledged : Bool
  enqueued : List Uuid
  marked : List Uuid

inductive Action
  | create (call : Nat) (recipient : Recipient) (ids : ChannelName → Uuid)
  | find (call : Nat)
  | enqueue (call : Nat)
  | acknowledge (call : Nat)
  | abandon (call : Nat)
  | take (id : Uuid)
  | load (id : Uuid)
  | send (id : Uuid)
  | markSent (id : Uuid) (lost : Option String)
  | complete (id : Uuid)
  | throw (id : Uuid) (error : String)
  | park (failure : Failure)
  | record (failure : Failure)

namespace Service

def empty : Service where
  rows := []
  processed := false
  jobs _ := none
  notifyDlq := []
  failures := []
  dispatches _ := .idle
  acknowledged := false
  enqueued := []
  marked := []

def setDispatch (service : Service) (call : Nat) (stage : Dispatch) : Service :=
  { service with dispatches := Function.update service.dispatches call stage }

def setJob (service : Service) (id : Uuid) (job : Option Job) : Service :=
  { service with jobs := Function.update service.jobs id job }

/-- The transaction around `runOnce`: a processed event is skipped. -/
def create (config : Config) (event : OrderEvent) (service : Service) (type : String) (recipient : Recipient)
    (ids : ChannelName → Uuid) : Service :=
  if service.processed then service
  else { service with
    processed := true
    rows := config.enabledChannels.map (pendingRow event type recipient ids) }

/-- `queue.add`, which does nothing while the job id exists. -/
def enqueue (service : Service) (payload : NotificationJobPayload) : Service :=
  match service.jobs payload.notificationId with
  | some _ => service
  | none => { service.setJob payload.notificationId (some { payload, attemptsMade := 0, phase := .waiting }) with
      enqueued := payload.notificationId :: service.enqueued }

/-- The end of a failed attempt: the job waits for the next one unless its
attempts are used up, and `failed` starts the handler. -/
def fail (config : Config) (service : Service) (id : Uuid) (job : Job) (error : String) : Service :=
  let attemptsMade := job.attemptsMade + 1
  let phase : JobPhase := if attemptsMade < config.maxAttempts then .waiting else .exhausted
  { service.setJob id (some { job with attemptsMade, phase }) with
    failures := { payload := job.payload, attemptsMade, error, parked := false } :: service.failures }

/-- The committed update at the end of an attempt. -/
def markSent (service : Service) (id : Uuid) : Service :=
  { service with rows := NotificationService.markSent service.rows id, marked := id :: service.marked }

/-- The handler's last update. -/
def record (config : Config) (service : Service) (failure : Failure) : Service :=
  { service with
    failures := service.failures.erase failure
    rows :=
      if failure.attemptsMade < config.maxAttempts then
        markFailed service.rows failure.payload.notificationId failure.attemptsMade failure.error
      else markDead service.rows failure.payload.notificationId failure.attemptsMade failure.error }

/-- One step of one call. A dispatch may throw at any time, an attempt anywhere
before it has succeeded, also when only the answer to its markSent is lost. -/
def step (config : Config) (event : OrderEvent) (service : Service) : Action → Option Service
  | .create call recipient ids =>
    match service.dispatches call with
    | .idle =>
      match notificationType event.eventType with
      | none => some { service.setDispatch call .returned with acknowledged := true }
      | some type =>
        if config.enabledChannels = [] then some { service.setDispatch call .returned with acknowledged := true }
        else if (config.enabledChannels.map ids).Nodup then
          some ((service.create config event type recipient ids).setDispatch call .created)
        else none
    | _ => none
  | .find call =>
    match service.dispatches call with
    | .created =>
      some (service.setDispatch call (.enqueuing (findPendingByEvent service.rows event.tenantId event.eventId)))
    | _ => none
  | .enqueue call =>
    match service.dispatches call with
    | .enqueuing (notification :: pending) =>
      some ((service.enqueue (jobPayload event notification)).setDispatch call (.enqueuing pending))
    | _ => none
  | .acknowledge call =>
    match service.dispatches call with
    | .enqueuing [] => some { service.setDispatch call .returned with acknowledged := true }
    | _ => none
  | .abandon call =>
    match service.dispatches call with
    | .returned => none
    | _ => some (service.setDispatch call .failed)
  | .take id =>
    match service.jobs id with
    | some job => if job.phase = .waiting then some (service.setJob id (some { job with phase := .started })) else none
    | none => none
  | .load id =>
    match service.jobs id with
    | some job =>
      if job.phase = .started then
        match service.rows.find? fun row => row.id = job.payload.notificationId with
        | some row =>
          some (service.setJob id (some { job with phase := if row.status = .sent then .succeeded else .found }))
        | none => none
      else none
    | none => none
  | .send id =>
    match service.jobs id with
    | some job => if job.phase = .found then some (service.setJob id (some { job with phase := .delivered })) else none
    | none => none
  | .markSent id lost =>
    match service.jobs id with
    | some job =>
      if job.phase = .delivered then
        match lost with
        | none =>
          some ((service.markSent job.payload.notificationId).setJob id (some { job with phase := .succeeded }))
        | some error => some ((service.markSent job.payload.notificationId).fail config id job error)
      else none
    | none => none
  | .complete id =>
    match service.jobs id with
    | some job => if job.phase = .succeeded then some (service.setJob id none) else none
    | none => none
  | .throw id error =>
    match service.jobs id with
    | some job =>
      if job.phase = .started ∨ job.phase = .found ∨ job.phase = .delivered then some (service.fail config id job error)
      else none
    | none => none
  | .park failure =>
    if failure ∈ service.failures ∧ config.maxAttempts ≤ failure.attemptsMade ∧ failure.parked = false then
      some { service with
        notifyDlq := (failure.payload, failure.error) :: service.notifyDlq
        failures := { failure with parked := true } :: service.failures.erase failure }
    else none
  | .record failure =>
    if failure ∈ service.failures ∧ (failure.attemptsMade < config.maxAttempts ∨ failure.parked) then
      some (service.record config failure)
    else none

variable {config : Config} {event : OrderEvent} {service service' : Service}

/-- What a step does. -/
inductive Moves (config : Config) (event : OrderEvent) (service : Service) : Action → Service → Prop
  | skip {call recipient ids} : service.dispatches call = .idle →
      notificationType event.eventType = none ∨ config.enabledChannels = [] →
      Moves config event service (.create call recipient ids) { service.setDispatch call .returned with acknowledged := true }
  | create {call recipient ids type} : service.dispatches call = .idle → notificationType event.eventType = some type →
      (config.enabledChannels.map ids).Nodup →
      Moves config event service (.create call recipient ids)
        ((service.create config event type recipient ids).setDispatch call .created)
  | find {call} : service.dispatches call = .created → Moves config event service (.find call)
      (service.setDispatch call (.enqueuing (findPendingByEvent service.rows event.tenantId event.eventId)))
  | enqueue {call notification pending} : service.dispatches call = .enqueuing (notification :: pending) →
      Moves config event service (.enqueue call)
        ((service.enqueue (jobPayload event notification)).setDispatch call (.enqueuing pending))
  | acknowledge {call} : service.dispatches call = .enqueuing [] →
      Moves config event service (.acknowledge call) { service.setDispatch call .returned with acknowledged := true }
  | abandon {call} : service.dispatches call ≠ .returned →
      Moves config event service (.abandon call) (service.setDispatch call .failed)
  | take {id job} : service.jobs id = some job → job.phase = .waiting →
      Moves config event service (.take id) (service.setJob id (some { job with phase := .started }))
  | load {id job row} : service.jobs id = some job → job.phase = .started →
      service.rows.find? (fun row => row.id = job.payload.notificationId) = some row →
      Moves config event service (.load id)
        (service.setJob id (some { job with phase := if row.status = .sent then .succeeded else .found }))
  | send {id job} : service.jobs id = some job → job.phase = .found →
      Moves config event service (.send id) (service.setJob id (some { job with phase := .delivered }))
  | sent {id job} : service.jobs id = some job → job.phase = .delivered →
      Moves config event service (.markSent id none)
        ((service.markSent job.payload.notificationId).setJob id (some { job with phase := .succeeded }))
  | lost {id job error} : service.jobs id = some job → job.phase = .delivered →
      Moves config event service (.markSent id (some error))
        ((service.markSent job.payload.notificationId).fail config id job error)
  | complete {id job} : service.jobs id = some job → job.phase = .succeeded →
      Moves config event service (.complete id) (service.setJob id none)
  | throw {id job error} : service.jobs id = some job →
      job.phase = .started ∨ job.phase = .found ∨ job.phase = .delivered →
      Moves config event service (.throw id error) (service.fail config id job error)
  | park {failure} : failure ∈ service.failures → config.maxAttempts ≤ failure.attemptsMade → failure.parked = false →
      Moves config event service (.park failure) { service with
        notifyDlq := (failure.payload, failure.error) :: service.notifyDlq
        failures := { failure with parked := true } :: service.failures.erase failure }
  | record {failure} : failure ∈ service.failures → failure.attemptsMade < config.maxAttempts ∨ failure.parked →
      Moves config event service (.record failure) (service.record config failure)

/-- The steps of a dispatch. -/
theorem moves_of_create {call : Nat} {recipient : Recipient} {ids : ChannelName → Uuid}
    (step : service.step config event (.create call recipient ids) = some service') :
    Moves config event service (.create call recipient ids) service' := by
  simp only [Service.step] at step
  split at step
  · rename_i idle
    split at step
    · rename_i unknown
      cases step
      exact .skip idle (Or.inl unknown)
    · rename_i type known
      split at step
      · rename_i none
        cases step
        exact .skip idle (Or.inr none)
      · split at step
        · rename_i distinct
          cases step
          exact .create idle known distinct
        · cases step
  · cases step

theorem moves_of_step {action : Action} (step : service.step config event action = some service') :
    Moves config event service action service' := by
  cases action with
  | create call recipient ids => exact moves_of_create step
  | find call =>
    simp only [Service.step] at step
    split at step <;> cases step
    exact .find ‹_›
  | enqueue call =>
    simp only [Service.step] at step
    split at step <;> cases step
    exact .enqueue ‹_›
  | acknowledge call =>
    simp only [Service.step] at step
    split at step <;> cases step
    exact .acknowledge ‹_›
  | abandon call =>
    simp only [Service.step] at step
    split at step <;> cases step
    exact .abandon ‹_›
  | markSent id lost =>
    simp only [Service.step] at step
    split at step
    · rename_i job stands
      split at step
      · cases lost <;> cases step
        · exact .sent stands ‹_›
        · exact .lost stands ‹_›
      · cases step
    · cases step
  | load id =>
    simp only [Service.step] at step
    split at step
    · rename_i job stands
      split at step
      · split at step <;> cases step
        exact .load stands ‹_› ‹_›
      · cases step
    · cases step
  | park failure =>
    simp only [Service.step] at step
    split at step <;> cases step
    rename_i due
    exact .park due.1 due.2.1 due.2.2
  | record failure =>
    simp only [Service.step] at step
    split at step <;> cases step
    rename_i due
    exact .record due.1 due.2
  | take id =>
    simp only [Service.step] at step
    split at step
    · split at step <;> cases step
      exact .take ‹_› ‹_›
    · cases step
  | send id =>
    simp only [Service.step] at step
    split at step
    · split at step <;> cases step
      exact .send ‹_› ‹_›
    · cases step
  | complete id =>
    simp only [Service.step] at step
    split at step
    · split at step <;> cases step
      exact .complete ‹_› ‹_›
    · cases step
  | throw id error =>
    simp only [Service.step] at step
    split at step
    · split at step <;> cases step
      exact .throw ‹_› ‹_›
    · cases step

end Service

end FoodDelivery.NotificationService
