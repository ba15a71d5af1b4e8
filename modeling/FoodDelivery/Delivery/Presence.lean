import Mathlib.Data.Rat.Defs
import FoodDelivery.Lib.History
import FoodDelivery.Messaging.Envelope
import FoodDelivery.Tenancy.Identity

namespace FoodDelivery.Delivery

open CommitLog
open Tenancy (VerifiedIdentity)

structure Location where
  lat : Rat
  lng : Rat
  deriving DecidableEq

inductive InvalidLocationError
  | invalid (message : String)
  deriving DecidableEq, Repr

def latMin : Rat := -90
def latMax : Rat := 90
def lngMin : Rat := -180
def lngMax : Rat := 180

/-- Neither argument need be a finite number. -/
def createLocation (lat lng : Option Rat) : Except InvalidLocationError Location :=
  match lat.filter fun value => latMin ≤ value ∧ value ≤ latMax with
  | none => throw (.invalid "latitude must be a finite number in [-90, 90]")
  | some lat =>
    match lng.filter fun value => lngMin ≤ value ∧ value ≤ lngMax with
    | none => throw (.invalid "longitude must be a finite number in [-180, 180]")
    | some lng => pure { lat, lng }

structure LocationRateLimiter where
  maxPerSec : Nat
  windowStartMs : Int
  count : Nat
  deriving DecidableEq, Repr

def LocationRateLimiter.create (maxPerSec : Nat) : LocationRateLimiter where
  maxPerSec := maxPerSec
  windowStartMs := 0
  count := 0

def LocationRateLimiter.allow (limiter : LocationRateLimiter) (nowMs : Int) : Bool × LocationRateLimiter :=
  let limiter := if 1000 ≤ nowMs - limiter.windowStartMs then { limiter with windowStartMs := nowMs, count := 0 } else limiter
  if limiter.maxPerSec ≤ limiter.count then (false, limiter) else (true, { limiter with count := limiter.count + 1 })

def driverRole : String := "driver"

/-- The command of a `push` or a `remove`, for the driver of the socket that
issued it. -/
inductive LocationCommand
  | geoadd (location : Location)
  | zrem
  deriving DecidableEq

/-- A socket with the commands it has issued, oldest first, until Redis
applies them. Whether a location of it was accepted is kept for the
statements only. -/
structure DeliverySocket where
  identity : VerifiedIdentity
  rateLimiter : LocationRateLimiter
  connected : Bool
  accepted : Bool
  outstanding : List LocationCommand
  deriving DecidableEq

def DeliverySocket.open (identity : VerifiedIdentity) (rateLimitPerSec : Nat) : DeliverySocket where
  identity := identity
  rateLimiter := .create rateLimitPerSec
  connected := true
  accepted := false
  outstanding := []

def DeliverySocket.issue (socket : DeliverySocket) (command : LocationCommand) : DeliverySocket :=
  { socket with outstanding := socket.outstanding ++ [command] }

/-- `onLocation`, up to the command it issues. -/
def DeliverySocket.onLocation (socket : DeliverySocket) (nowMs : Int) (lat lng : Option Rat) : DeliverySocket :=
  if driverRole ∉ socket.identity.roles then socket
  else
    match socket.rateLimiter.allow nowMs with
    | (false, rateLimiter) => { socket with rateLimiter }
    | (true, rateLimiter) =>
      match createLocation lat lng with
      | .error _ => { socket with rateLimiter }
      | .ok location => { socket.issue (.geoadd location) with rateLimiter, accepted := true }

/-- `handleDisconnect`. -/
def DeliverySocket.onDisconnect (socket : DeliverySocket) : DeliverySocket :=
  if driverRole ∈ socket.identity.roles then { socket.issue .zrem with connected := false }
  else { socket with connected := false }

def driversKey (tenantId : Uuid) : String := "geo:" ++ tenantId ++ ":drivers"

/-- The positions under a key of Redis. -/
abbrev GeoSets := String → String → Option Location

/-- The latitude up to which `GEOADD` takes a position; it refuses others. -/
def geoLatMax : Rat := mkRat 8505112878 100000000

def LocationCommand.accepts : LocationCommand → Bool
  | .geoadd location => -geoLatMax ≤ location.lat ∧ location.lat ≤ geoLatMax
  | .zrem => false

def LocationCommand.run (geo : GeoSets) (key member : String) : LocationCommand → GeoSets
  | .geoadd location =>
    if LocationCommand.accepts (.geoadd location) then
      Function.update geo key (Function.update (geo key) member (some location))
    else geo
  | .zrem => Function.update geo key (Function.update (geo key) member none)

/-- The sockets of all replicas of the gateway, and Redis. -/
structure Service where
  rateLimitPerSec : Nat
  sockets : Nat → Option DeliverySocket
  geo : GeoSets

inductive Event
  | connect (id : Nat) (identity : VerifiedIdentity)
  | location (id : Nat) (nowMs : Int) (lat lng : Option Rat)
  | disconnect (id : Nat)
  | apply (id : Nat)

namespace Service

def empty (rateLimitPerSec : Nat) : Service where
  rateLimitPerSec := rateLimitPerSec
  sockets _ := none
  geo _ _ := none

def set (s : Service) (id : Nat) (socket : DeliverySocket) : Service :=
  { s with sockets := Function.update s.sockets id (some socket) }

def carryOut (s : Service) (id : Nat) (socket : DeliverySocket) (command : LocationCommand) (rest : List LocationCommand) :
    Service :=
  { s.set id { socket with outstanding := rest } with
    geo := command.run s.geo (driversKey socket.identity.tenantId) socket.identity.sub }

/-- Redis applies the oldest command of a socket. -/
def applyNext (s : Service) (id : Nat) (socket : DeliverySocket) : Option Service :=
  match socket.outstanding with
  | [] => none
  | command :: rest => some (s.carryOut id socket command rest)

def step (s : Service) : Event → Option Service
  | .connect id identity =>
    match s.sockets id with
    | some _ => none
    | none => some (s.set id (.open identity s.rateLimitPerSec))
  | .location id nowMs lat lng =>
    match s.sockets id with
    | none => none
    | some socket => if socket.connected then some (s.set id (socket.onLocation nowMs lat lng)) else none
  | .disconnect id =>
    match s.sockets id with
    | none => none
    | some socket => if socket.connected then some (s.set id socket.onDisconnect) else none
  | .apply id =>
    match s.sockets id with
    | none => none
    | some socket => s.applyNext id socket

end Service

end FoodDelivery.Delivery
