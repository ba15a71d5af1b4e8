import Mathlib.Data.Rat.Defs
import Mathlib.Logic.Function.Basic
import FoodDelivery.Lib.History
import FoodDelivery.Lib.Table
import FoodDelivery.Messaging.Envelope

namespace FoodDelivery.Media

open CommitLog

/-- The ids of tenants and of media are UUIDs, which have no underscore. -/
structure PlainId where
  text : Uuid
  plain : '_' ∉ text.toList
  deriving DecidableEq

inductive MediaStatus
  | pending
  | uploaded
  | ready
  deriving DecidableEq, Repr

/-- How far a status is. -/
def MediaStatus.rank : MediaStatus → Nat
  | .pending => 0
  | .uploaded => 1
  | .ready => 2

theorem MediaStatus.rank_le_ready (status : MediaStatus) : status.rank ≤ MediaStatus.ready.rank := by
  cases status <;> decide

/-- A row of media_objects. -/
structure MediaObject where
  id : PlainId
  tenantId : PlainId
  objectKey : String
  contentType : String
  sizeBytes : Rat
  status : MediaStatus
  thumbnailKey : Option String
  deriving DecidableEq

def buildObjectKey (tenantId id : PlainId) : String := tenantId.text ++ "/" ++ id.text

def buildThumbnailKey (tenantId id : PlainId) : String := tenantId.text ++ "/" ++ id.text ++ "_thumb"

namespace MediaObject

def create (id tenantId : PlainId) (objectKey contentType : String) (sizeBytes : Rat) : MediaObject where
  id := id
  tenantId := tenantId
  objectKey := objectKey
  contentType := contentType
  sizeBytes := sizeBytes
  status := .pending
  thumbnailKey := none

def isPending (media : MediaObject) : Bool := media.status == .pending

def isReady (media : MediaObject) : Bool := media.status == .ready

def markUploaded (media : MediaObject) : MediaObject := { media with status := .uploaded }

def markReady (media : MediaObject) (thumbnailKey : String) : MediaObject :=
  { media with status := .ready, thumbnailKey := some thumbnailKey }

end MediaObject

inductive MediaError
  | unsupportedType (contentType : String)
  | notPositive
  | oversized (sizeBytes : Rat) (maxBytes : Nat)
  | notFound (mediaId : PlainId)
  deriving DecidableEq

def assertAllowedUpload (contentType : String) (sizeBytes : Rat) (allowedMimes : List String) (maxBytes : Nat) :
    Except MediaError Unit := do
  if contentType ∉ allowedMimes then throw (.unsupportedType contentType)
  if sizeBytes.isInt = false ∨ sizeBytes ≤ 0 then throw .notPositive
  if maxBytes < sizeBytes then throw (.oversized sizeBytes maxBytes)

/-- A call of `CompleteUploadHandler.execute`, after each of its steps. -/
inductive Completion
  | idle
  | found (media : MediaObject)
  | oversized (media : MediaObject)
  | fits (media : MediaObject)
  | saved (media : MediaObject)
  deriving DecidableEq

/-- An attempt of a thumbnail job, after each step of `GenerateThumbnailHandler.execute`. -/
inductive Attempt
  | idle
  | found (media : MediaObject)
  | loaded (media : MediaObject)
  | resized (media : MediaObject) (sizeBytes : Nat)
  | stored (media : MediaObject) (thumbnailKey : String)
  deriving DecidableEq

structure UploadUrl where
  objectKey : String
  expiresAt : Nat
  deriving DecidableEq, Repr

structure MediaView where
  id : PlainId
  status : MediaStatus
  url : Option String
  thumbnailUrl : Option String
  deriving DecidableEq

/-- The rows, the bucket with the length of each object, the URLs handed out
and the queue. The keys that `putObject` has written are kept for the
statements only. -/
structure Service where
  maxBytes : Nat
  allowedMimes : List String
  presignTtlSeconds : Nat
  now : Nat
  rows : Table MediaObject.id
  objects : String → Option Nat
  uploadUrls : List UploadUrl
  jobs : PlainId → Bool
  completions : Nat → Completion
  attempts : Nat → Attempt
  written : List String

inductive Action
  | wait (seconds : Nat)
  | createUpload (tenantId id : PlainId) (contentType : String) (sizeBytes : Rat) (presigned : Bool)
  | clientPut (objectKey : String) (sizeBytes : Nat)
  | complete (call : Nat) (id tenantId : PlainId)
  | statObject (call : Nat)
  | removeObject (call : Nat)
  | saveUploaded (call : Nat)
  | enqueue (call : Nat)
  | abandonCall (call : Nat)
  | startJob (attempt : Nat) (mediaId : PlainId)
  | getObject (attempt : Nat)
  | resize (attempt : Nat) (sizeBytes : Nat)
  | putObject (attempt : Nat)
  | saveReady (attempt : Nat)
  | abandonAttempt (attempt : Nat)

namespace Service

def findById (s : Service) (id tenantId : PlainId) : Option MediaObject :=
  (s.rows.find id).filter fun media => media.tenantId = tenantId

/-- `GetMediaHandler.execute`; a presigned URL stands for its object key. -/
def getMedia (s : Service) (id tenantId : PlainId) : Except MediaError MediaView :=
  match s.findById id tenantId with
  | none => throw (.notFound id)
  | some media =>
    pure { id := media.id, status := media.status,
           url := if media.isPending then none else some media.objectKey,
           thumbnailUrl := if media.isReady then media.thumbnailKey else none }

def setCall (s : Service) (call : Nat) (completion : Completion) : Service :=
  { s with completions := Function.update s.completions call completion }

def setAttempt (s : Service) (attempt : Nat) (phase : Attempt) : Service :=
  { s with attempts := Function.update s.attempts attempt phase }

def save (s : Service) (media : MediaObject) : Service := { s with rows := s.rows.put media }

def store (s : Service) (key : String) (sizeBytes : Option Nat) : Service :=
  { s with objects := Function.update s.objects key sizeBytes }

/-- `CreateUploadHandler.execute` with the id it draws, unless it throws
before it returns the URL. -/
def createUpload (s : Service) (tenantId id : PlainId) (contentType : String) (sizeBytes : Rat) (presigned : Bool) :
    Option Service :=
  match assertAllowedUpload contentType sizeBytes s.allowedMimes s.maxBytes, s.rows.find id with
  | .ok _, none =>
    let objectKey := buildObjectKey tenantId id
    let saved := s.save (.create id tenantId objectKey contentType sizeBytes)
    let url : UploadUrl := { objectKey, expiresAt := s.now + s.presignTtlSeconds }
    some (if presigned then { saved with uploadUrls := url :: s.uploadUrls } else saved)
  | _, _ => none

/-- The lookup of `CompleteUploadHandler.execute`. -/
def complete (s : Service) (call : Nat) (id tenantId : PlainId) : Service :=
  match s.findById id tenantId with
  | none => s
  | some media => if media.isReady then s else s.setCall call (.found media)

def statObject (s : Service) (call : Nat) (media : MediaObject) : Service :=
  match s.objects media.objectKey with
  | none => s.setCall call .idle
  | some sizeBytes => if s.maxBytes < sizeBytes then s.setCall call (.oversized media) else s.setCall call (.fits media)

def saveUploaded (s : Service) (call : Nat) (media : MediaObject) : Service :=
  if media.isPending then (s.save media.markUploaded).setCall call (.saved media.markUploaded)
  else s.setCall call (.saved media)

/-- The lookup of `GenerateThumbnailHandler.execute`. A finished job leaves the queue. -/
def startJob (s : Service) (attempt : Nat) (mediaId : PlainId) : Service :=
  match s.rows.find mediaId with
  | none => s
  | some media =>
    if media.isReady then { s with jobs := Function.update s.jobs mediaId false } else s.setAttempt attempt (.found media)

def getObject (s : Service) (attempt : Nat) (media : MediaObject) : Service :=
  match s.objects media.objectKey with
  | none => s.setAttempt attempt .idle
  | some sizeBytes => if s.maxBytes < sizeBytes then s.setAttempt attempt .idle else s.setAttempt attempt (.loaded media)

def putObject (s : Service) (attempt : Nat) (media : MediaObject) (sizeBytes : Nat) : Service :=
  let thumbnailKey := buildThumbnailKey media.tenantId media.id
  let stored := s.store thumbnailKey (some sizeBytes)
  { stored with written := thumbnailKey :: s.written }.setAttempt attempt (.stored media thumbnailKey)

def saveReady (s : Service) (attempt : Nat) (media : MediaObject) (thumbnailKey : String) : Service :=
  let saved := (s.save (media.markReady thumbnailKey)).setAttempt attempt .idle
  { saved with jobs := Function.update s.jobs media.id false }

def step (s : Service) : Action → Option Service
  | .wait seconds => some { s with now := s.now + seconds }
  | .createUpload tenantId id contentType sizeBytes presigned => s.createUpload tenantId id contentType sizeBytes presigned
  | .clientPut objectKey sizeBytes =>
    if s.uploadUrls.any fun url => url.objectKey = objectKey ∧ s.now < url.expiresAt then some (s.store objectKey (some sizeBytes))
    else none
  | .complete call id tenantId => if s.completions call = .idle then some (s.complete call id tenantId) else none
  | .statObject call =>
    match s.completions call with
    | .found media => some (s.statObject call media)
    | _ => none
  | .removeObject call =>
    match s.completions call with
    | .oversized media => some ((s.store media.objectKey none).setCall call .idle)
    | _ => none
  | .saveUploaded call =>
    match s.completions call with
    | .fits media => some (s.saveUploaded call media)
    | _ => none
  | .enqueue call =>
    match s.completions call with
    | .saved media => some ({ s with jobs := Function.update s.jobs media.id true }.setCall call .idle)
    | _ => none
  | .abandonCall call => some (s.setCall call .idle)
  | .startJob attempt mediaId =>
    if s.jobs mediaId = true ∧ s.attempts attempt = .idle then some (s.startJob attempt mediaId) else none
  | .getObject attempt =>
    match s.attempts attempt with
    | .found media => some (s.getObject attempt media)
    | _ => none
  | .resize attempt sizeBytes =>
    match s.attempts attempt with
    | .loaded media => some (s.setAttempt attempt (.resized media sizeBytes))
    | _ => none
  | .putObject attempt =>
    match s.attempts attempt with
    | .resized media sizeBytes => some (s.putObject attempt media sizeBytes)
    | _ => none
  | .saveReady attempt =>
    match s.attempts attempt with
    | .stored media thumbnailKey => some (s.saveReady attempt media thumbnailKey)
    | _ => none
  | .abandonAttempt attempt => some (s.setAttempt attempt .idle)

end Service

/-- The service before its first upload. -/
def Service.Initial (s : Service) : Prop :=
  s.rows = .empty ∧ s.objects = (fun _ => none) ∧ s.jobs = (fun _ => false) ∧ s.completions = (fun _ => .idle) ∧
    s.attempts = fun _ => .idle

abbrev Run := History Service.Initial fun _ (action : Action) s s' => s.step action = some s'

end FoodDelivery.Media
