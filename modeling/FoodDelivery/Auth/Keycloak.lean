import Mathlib.Data.List.DropRight
import FoodDelivery.Messaging.Envelope

namespace FoodDelivery.AuthService

/-- The errors of user provisioning, one for each place that throws. What
`fetch`, a response body or the database throws of its own is `thrown`. -/
inductive ProvisionError
  | invalidUuid (field value : String)
  | entityNotFound (entity entityId : String)
  | authenticationFailed (status : Nat)
  | userExists (username : String)
  | upstream
  | noUserId
  | roleMissing (role : String)
  | roleLookupFailed (status : Nat)
  | roleAssignmentFailed (status : Nat)
  | deletionFailed (status : Nat)
  | orphaned (userId : String)
  | keycloakUserIdRequired
  | roleRequired
  | reconciliation (userId : String)
  | thrown
  deriving DecidableEq, Repr

def ProvisionError.message : ProvisionError → Option String
  | .invalidUuid field value => some ("\"" ++ field ++ "\" must be a valid UUID, received \"" ++ value ++ "\"")
  | .entityNotFound entity entityId => some (entity ++ " \"" ++ entityId ++ "\" not found")
  | .authenticationFailed status => some ("Keycloak admin authentication failed (" ++ toString status ++ ")")
  | .userExists username => some ("User \"" ++ username ++ "\" already exists")
  | .upstream => some "Upstream identity provider error"
  | .noUserId => some "Keycloak did not return a created user id"
  | .roleMissing role => some ("Realm role \"" ++ role ++ "\" does not exist")
  | .roleLookupFailed status => some ("Keycloak role lookup failed (" ++ toString status ++ ")")
  | .roleAssignmentFailed status => some ("Keycloak role assignment failed (" ++ toString status ++ ")")
  | .deletionFailed status => some ("Keycloak user deletion failed (" ++ toString status ++ ")")
  | .orphaned userId => some ("Provisioning failed and the orphaned Keycloak user " ++ userId ++ " could not be removed")
  | .keycloakUserIdRequired => some "Keycloak user id is required"
  | .roleRequired => some "Role is required"
  | .reconciliation userId => some ("User provisioning failed and the orphaned Keycloak user " ++ userId ++
      " could not be removed; manual reconciliation required")
  | .thrown => none

structure KeycloakUser where
  id : String
  username : String
  email : String
  tenantId : String
  roles : List String
  deriving DecidableEq, Repr

structure CreateKeycloakUserInput where
  tenantId : String
  username : String
  email : String
  role : String

/-- A response, whose body may turn out not to be readable. -/
structure Response where
  status : Nat
  location : Option String
  readable : Bool
  deriving DecidableEq, Repr

def Response.ok (response : Response) : Bool := 200 ≤ response.status && response.status < 300

/-- What becomes of a request that changes Keycloak. A failure of the network
leaves no response, before or after the request was applied; a success is
answered only to a request that was. -/
structure Outcome where
  applied : Bool
  response : Option Response
  truthful : ∀ answer, response = some answer → answer.ok = true → applied = true

/-- The same for a deletion, where Keycloak also says so of a user it has not. -/
structure Deletion extends Outcome where
  absent : ∀ answer, response = some answer → answer.status = 404 → applied = true

/-- `location?.split('/').pop()`. -/
def lastSegment (location : Option String) : Option String :=
  location.map fun location => String.ofList (location.toList.rtakeWhile (· ≠ '/'))

/-- The answers to the requests of `createUser`, and the id that Keycloak gives
to the user where it creates one. -/
structure CreateUserCalls where
  token : Option Response
  id : String
  created : Outcome
  role : Option Response
  assigned : Outcome
  undone : Deletion

structure DeleteUserCalls where
  token : Option Response
  deleted : Deletion

def authenticate : Option Response → Except ProvisionError Unit
  | none => throw .thrown
  | some response =>
    if !response.ok then throw (.authenticationFailed response.status)
    else if !response.readable then throw .thrown
    else return

def createUserRecord (created : Outcome) (id : String) (input : CreateKeycloakUserInput) (users : List KeycloakUser) :
    Except ProvisionError String × List KeycloakUser :=
  let user := { id, username := input.username, email := input.email, tenantId := input.tenantId, roles := [] }
  let users := if created.applied then users ++ [user] else users
  let result := match created.response with
    | none => throw .thrown
    | some response =>
      if response.status = 409 then throw (.userExists input.username)
      else if response.status ≠ 201 then throw (if response.readable then .upstream else .thrown)
      else match lastSegment response.location with
        | none => throw .noUserId
        | some userId => if userId = "" then throw .noUserId else return userId
  (result, users)

def KeycloakUser.withRole (userId role : String) (user : KeycloakUser) : KeycloakUser :=
  if user.id = userId then { user with roles := role :: user.roles } else user

/-- The representation that the lookup answers is that of the role asked for. -/
def assignRealmRole (calls : CreateUserCalls) (userId role : String) (users : List KeycloakUser) :
    Except ProvisionError Unit × List KeycloakUser :=
  match calls.role with
  | none => (throw .thrown, users)
  | some found =>
    if found.status = 404 then (throw (.roleMissing role), users)
    else if !found.ok then (throw (.roleLookupFailed found.status), users)
    else if !found.readable then (throw .thrown, users)
    else
      let result := match calls.assigned.response with
        | none => throw .thrown
        | some response => if !response.ok then throw (.roleAssignmentFailed response.status) else return
      (result, if calls.assigned.applied then users.map (KeycloakUser.withRole userId role) else users)

def deleteUserRecord (deleted : Deletion) (userId : String) (users : List KeycloakUser) :
    Except ProvisionError Unit × List KeycloakUser :=
  let result := match deleted.response with
    | none => throw .thrown
    | some response => if !response.ok && response.status ≠ 404 then throw (.deletionFailed response.status) else return
  (result, if deleted.applied then users.filter fun user => user.id ≠ userId else users)

def compensateDelete (deleted : Deletion) (userId : String) (cause : ProvisionError) (users : List KeycloakUser) :
    Except ProvisionError String × List KeycloakUser :=
  match deleteUserRecord deleted userId users with
  | (.error _, users) => (throw (.orphaned userId), users)
  | (.ok (), users) => (throw cause, users)

def createUser (calls : CreateUserCalls) (input : CreateKeycloakUserInput) (users : List KeycloakUser) :
    Except ProvisionError String × List KeycloakUser :=
  match authenticate calls.token with
  | .error error => (throw error, users)
  | .ok () =>
    match createUserRecord calls.created calls.id input users with
    | (.error error, users) => (throw error, users)
    | (.ok userId, users) =>
      match assignRealmRole calls userId input.role users with
      | (.error roleError, users) => compensateDelete calls.undone userId roleError users
      | (.ok (), users) => (return userId, users)

def deleteUser (calls : DeleteUserCalls) (userId : String) (users : List KeycloakUser) :
    Except ProvisionError Unit × List KeycloakUser :=
  match authenticate calls.token with
  | .error error => (throw error, users)
  | .ok () => deleteUserRecord calls.deleted userId users

/-- The error is one of those that report a user left behind, and names this one. -/
def ProvisionError.names (userId : String) : ProvisionError → Bool
  | .orphaned named => named = userId
  | .reconciliation named => named = userId
  | _ => false

/-- The id that is read from the answer to a creation. -/
def Response.userId (response : Response) : Option String :=
  if response.status = 201 then (lastSegment response.location).filter (· ≠ "") else none

def Deletion.succeeds (deletion : Deletion) : Bool :=
  deletion.response.any fun response => response.ok || response.status = 404

namespace CreateUserCalls

/-- The user is created. -/
def Creates (calls : CreateUserCalls) : Prop := authenticate calls.token = .ok () ∧ calls.created.applied = true

def answered (calls : CreateUserCalls) : Option String := calls.created.response.bind Response.userId

def assigns (calls : CreateUserCalls) : Bool :=
  (calls.role.any fun found => found.ok && found.readable) && calls.assigned.response.any (·.ok)

end CreateUserCalls

section specs

variable {users : List KeycloakUser} {id userId role : String} {input : CreateKeycloakUserInput}

def ids (users : List KeycloakUser) : List String := users.map (·.id)

theorem ids_withRole (users : List KeycloakUser) : ids (users.map (KeycloakUser.withRole userId role)) = ids users := by
  unfold ids
  rw [List.map_map]
  refine List.map_congr_left fun user _ => ?_
  simp only [Function.comp_apply, KeycloakUser.withRole]
  split <;> rfl

theorem mem_ids_filter : id ∈ ids (users.filter fun user => user.id ≠ userId) ↔ id ∈ ids users ∧ id ≠ userId := by
  unfold ids
  simp only [List.mem_map, List.mem_filter, decide_eq_true_eq]
  constructor
  · rintro ⟨user, ⟨member, apart⟩, rfl⟩
    exact ⟨⟨user, member, rfl⟩, apart⟩
  · rintro ⟨⟨user, member, rfl⟩, apart⟩
    exact ⟨user, ⟨member, apart⟩, rfl⟩

theorem createUserRecord_cases (created : Outcome) (id : String) (input : CreateKeycloakUserInput)
    (users : List KeycloakUser) :
    (∃ userId, created.response.bind Response.userId = some userId ∧ (createUserRecord created id input users).1 = .ok userId) ∨
      created.response.bind Response.userId = none ∧
        ∃ error, (createUserRecord created id input users).1 = .error error ∧ ∀ userId, error.names userId = false := by
  unfold createUserRecord Response.userId
  cases created.response with
  | none => exact Or.inr ⟨rfl, .thrown, rfl, fun _ => rfl⟩
  | some response =>
    simp only [Option.bind_some]
    by_cases conflict : response.status = 409
    · rw [if_pos conflict, if_neg (by omega)]
      exact Or.inr ⟨rfl, _, rfl, fun _ => rfl⟩
    · by_cases created : response.status = 201
      · rw [if_neg conflict, if_neg (not_not.mpr created), if_pos created]
        cases lastSegment response.location with
        | none => exact Or.inr ⟨rfl, _, rfl, fun _ => rfl⟩
        | some userId =>
          by_cases empty : userId = ""
          · simp only [empty, if_true]
            exact Or.inr ⟨by simp, _, rfl, fun _ => rfl⟩
          · simp only [if_neg empty]
            exact Or.inl ⟨userId, by simp [empty], rfl⟩
      · rw [if_neg conflict, if_pos created, if_neg created]
        refine Or.inr ⟨rfl, _, rfl, fun _ => ?_⟩
        split <;> rfl

/-- The role is looked up, or the lookup ends in an error. -/
theorem assignRealmRole_looked_up (calls : CreateUserCalls) (userId role : String) (users : List KeycloakUser) :
    (calls.role.any (fun found => found.ok && found.readable) = true ∧ assignRealmRole calls userId role users =
      (match calls.assigned.response with
        | none => throw .thrown
        | some response => if !response.ok then throw (.roleAssignmentFailed response.status) else return,
      if calls.assigned.applied then users.map (KeycloakUser.withRole userId role) else users)) ∨
    calls.role.any (fun found => found.ok && found.readable) = false ∧
      ∃ error, assignRealmRole calls userId role users = (.error error, users) ∧ ∀ userId, error.names userId = false := by
  unfold assignRealmRole
  cases calls.role with
  | none => exact Or.inr ⟨rfl, _, rfl, fun _ => rfl⟩
  | some found =>
    by_cases missing : found.status = 404
    · simp only [if_pos missing]
      exact Or.inr ⟨by simp [Response.ok, missing], _, rfl, fun _ => rfl⟩
    · simp only [if_neg missing]
      cases ok : found.ok with
      | false => exact Or.inr ⟨by simp [ok], _, rfl, fun _ => rfl⟩
      | true =>
        cases readable : found.readable with
        | false => exact Or.inr ⟨by simp [readable], _, rfl, fun _ => rfl⟩
        | true => exact Or.inl ⟨by simp [ok, readable], rfl⟩

theorem assignRealmRole_cases (calls : CreateUserCalls) (userId role : String) (users : List KeycloakUser) :
    (calls.assigns = true ∧
      assignRealmRole calls userId role users = (.ok (), users.map (KeycloakUser.withRole userId role))) ∨
    calls.assigns = false ∧ ∃ error users', assignRealmRole calls userId role users = (.error error, users') ∧
      (∀ userId, error.names userId = false) ∧ ids users' = ids users := by
  have kept : ids (if calls.assigned.applied then users.map (KeycloakUser.withRole userId role) else users) = ids users := by
    split
    · exact ids_withRole users
    · rfl
  unfold CreateUserCalls.assigns
  rcases assignRealmRole_looked_up calls userId role users with ⟨found, run⟩ | ⟨missing, error, run, names⟩
  · rw [found, run]
    cases answer : calls.assigned.response with
    | none => exact Or.inr ⟨rfl, _, _, rfl, fun _ => rfl, kept⟩
    | some response =>
      cases ok : response.ok with
      | false =>
        refine Or.inr ⟨by simp [ok], .roleAssignmentFailed response.status, _, ?_, fun _ => rfl, kept⟩
        simp only [ok]
        rfl
      | true =>
        refine Or.inl ⟨by simp [ok], ?_⟩
        simp only [ok, calls.assigned.truthful response answer ok]
        rfl
  · rw [missing]
    exact Or.inr ⟨rfl, error, users, run, names, rfl⟩

theorem deleteUserRecord_cases (deleted : Deletion) (userId : String) (users : List KeycloakUser) :
    (deleted.succeeds = true ∧ deleteUserRecord deleted userId users = (.ok (), users.filter fun user => user.id ≠ userId)) ∨
    deleted.succeeds = false ∧ ∃ error users', deleteUserRecord deleted userId users = (.error error, users') ∧
      ∀ id, id ≠ userId → (id ∈ ids users' ↔ id ∈ ids users) := by
  have kept (id : String) (apart : id ≠ userId) :
      id ∈ ids (if deleted.applied then users.filter fun user => user.id ≠ userId else users) ↔ id ∈ ids users := by
    split
    · rw [mem_ids_filter]
      exact and_iff_left apart
    · rfl
  unfold deleteUserRecord Deletion.succeeds
  cases answer : deleted.response with
  | none => exact Or.inr ⟨rfl, _, _, rfl, kept⟩
  | some response =>
    by_cases gone : response.ok = true ∨ response.status = 404
    · have applied : deleted.applied = true := by
        rcases gone with ok | missing
        · exact deleted.truthful response answer ok
        · exact deleted.absent response answer missing
      have passes : (!response.ok && decide (response.status ≠ 404)) = false := by
        rcases gone with ok | missing
        · simp [ok]
        · simp [missing]
      refine Or.inl ⟨by simpa using gone, ?_⟩
      simp only [passes, applied]
      rfl
    · have fails : (!response.ok && decide (response.status ≠ 404)) = true := by simpa using gone
      refine Or.inr ⟨by simpa using gone, .deletionFailed response.status, _, ?_, kept⟩
      simp only [fails]
      rfl

theorem compensateDelete_cases (deleted : Deletion) (userId : String) (cause : ProvisionError) (users : List KeycloakUser) :
    (deleted.succeeds = true ∧ compensateDelete deleted userId cause users =
      (.error cause, users.filter fun user => user.id ≠ userId)) ∨
    deleted.succeeds = false ∧ ∃ users', compensateDelete deleted userId cause users = (.error (.orphaned userId), users') ∧
      ∀ id, id ≠ userId → (id ∈ ids users' ↔ id ∈ ids users) := by
  unfold compensateDelete
  rcases deleteUserRecord_cases deleted userId users with ⟨succeeds, run⟩ | ⟨fails, error, users', run, kept⟩
  · rw [run]
    exact Or.inl ⟨succeeds, rfl⟩
  · rw [run]
    exact Or.inr ⟨fails, users', rfl, kept⟩

end specs

section creating

variable {users : List KeycloakUser} {input : CreateKeycloakUserInput} {calls : CreateUserCalls}

/-- What `createUser` ends in. A user of Keycloak that is answered with its id
is left with its role, or reported, or removed; one that is not is left. -/
inductive Ending (calls : CreateUserCalls) (input : CreateKeycloakUserInput) :
    Except ProvisionError String × List KeycloakUser → Prop
  | nothing {error after} : ¬ calls.Creates → calls.id ∉ ids after → Ending calls input (.error error, after)
  | astray {result after} : calls.Creates → calls.answered ≠ some calls.id → calls.id ∈ ids after →
      result ≠ .ok calls.id → (∀ error, result = .error error → error.names calls.id = false) →
      Ending calls input (result, after)
  | created {after} : calls.Creates → calls.answered = some calls.id → calls.assigns = true →
      (∃ user ∈ after, user.id = calls.id ∧ user.tenantId = input.tenantId ∧ input.role ∈ user.roles) →
      Ending calls input (.ok calls.id, after)
  | reported {after} : calls.Creates → calls.answered = some calls.id → calls.assigns = false →
      Ending calls input (.error (.orphaned calls.id), after)
  | removed {error after} : calls.Creates → calls.answered = some calls.id → calls.assigns = false → calls.id ∉ ids after →
      Ending calls input (.error error, after)

/-- Nothing is answered with an id unless a user was created. -/
theorem applied_of_answered {userId : String} (answered : calls.answered = some userId) : calls.created.applied = true := by
  obtain ⟨response, answer, read⟩ := Option.bind_eq_some_iff.mp answered
  refine calls.created.truthful response answer ?_
  unfold Response.userId at read
  split at read
  · rename_i status
    simp [Response.ok, status]
  · cases read

theorem createUser_ending (calls : CreateUserCalls) (input : CreateKeycloakUserInput) (fresh : calls.id ∉ ids users) :
    Ending calls input (createUser calls input users) := by
  unfold createUser
  cases token : authenticate calls.token with
  | error error => exact .nothing (fun creates => by cases token.symm.trans creates.1) fresh
  | ok u =>
    rcases createUserRecord_cases calls.created calls.id input users with ⟨userId, answered, run⟩ | ⟨unanswered, error, run, names⟩
    · have creates : calls.Creates := ⟨token, applied_of_answered answered⟩
      obtain ⟨user, created, tenant, records⟩ : ∃ user : KeycloakUser, user.id = calls.id ∧ user.tenantId = input.tenantId ∧
          createUserRecord calls.created calls.id input users = (.ok userId, users ++ [user]) := by
        refine ⟨⟨calls.id, input.username, input.email, input.tenantId, []⟩, rfl, rfl, Prod.ext run ?_⟩
        exact if_pos creates.2
      have member : calls.id ∈ ids (users ++ [user]) :=
        List.mem_map.mpr ⟨user, List.mem_append_right _ (List.mem_singleton_self user), created⟩
      rw [records]
      simp only
      rcases assignRealmRole_cases calls userId input.role (users ++ [user]) with
        ⟨assigns, assigned⟩ | ⟨fails, roleError, after, failed, names, same⟩
      · rw [assigned]
        by_cases own : userId = calls.id
        · subst own
          refine .created creates answered assigns ⟨user.withRole calls.id input.role, ?_, ?_⟩
          · exact List.mem_map_of_mem (List.mem_append_right _ (List.mem_singleton_self user))
          · simp [KeycloakUser.withRole, created, tenant]
        · refine .astray creates ?_ ?_ ?_ nofun
          · exact fun isOwn => own (Option.some.inj (answered.symm.trans isOwn))
          · rwa [ids_withRole]
          · exact fun isOwn => own (Except.ok.inj isOwn)
      · rw [failed]
        simp only
        rw [← same] at member
        rcases compensateDelete_cases calls.undone userId roleError after with ⟨-, undone⟩ | ⟨-, after', undone, kept⟩
        · rw [undone]
          by_cases own : userId = calls.id
          · subst own
            exact .removed creates answered fails fun left => (mem_ids_filter.mp left).2 rfl
          · refine .astray creates ?_ (mem_ids_filter.mpr ⟨member, Ne.symm own⟩) nofun ?_
            · exact fun isOwn => own (Option.some.inj (answered.symm.trans isOwn))
            · rintro _ ⟨⟩
              exact names calls.id
        · rw [undone]
          by_cases own : userId = calls.id
          · subst own
            exact .reported creates answered fails
          · refine .astray creates ?_ ((kept calls.id (Ne.symm own)).mpr member) nofun ?_
            · exact fun isOwn => own (Option.some.inj (answered.symm.trans isOwn))
            · rintro _ ⟨⟩
              exact decide_eq_false own
    · have whole : createUserRecord calls.created calls.id input users =
          (.error error, (createUserRecord calls.created calls.id input users).2) := Prod.ext run rfl
      rw [whole]
      by_cases applied : calls.created.applied = true
      · refine .astray ⟨token, applied⟩ ?_ ?_ nofun ?_
        · exact fun answered => by cases unanswered.symm.trans answered
        · simp [createUserRecord, applied, ids]
        · rintro _ ⟨⟩
          exact names calls.id
      · refine .nothing (fun creates => applied creates.2) ?_
        simp only [createUserRecord, if_neg applied]
        exact fresh

end creating

section deleting

variable {users : List KeycloakUser} {calls : DeleteUserCalls}

def DeleteUserCalls.succeeds (calls : DeleteUserCalls) : Prop :=
  authenticate calls.token = .ok () ∧ calls.deleted.succeeds = true

theorem deleteUser_cases (calls : DeleteUserCalls) (userId : String) (users : List KeycloakUser) :
    (calls.succeeds ∧ deleteUser calls userId users = (.ok (), users.filter fun user => user.id ≠ userId)) ∨
    ¬ calls.succeeds ∧ ∃ error users', deleteUser calls userId users = (.error error, users') ∧
      ∀ id, id ≠ userId → (id ∈ ids users' ↔ id ∈ ids users) := by
  unfold deleteUser
  cases token : authenticate calls.token with
  | error error =>
    refine Or.inr ⟨fun succeeds => ?_, error, users, rfl, fun _ _ => Iff.rfl⟩
    cases token.symm.trans succeeds.1
  | ok u =>
    rcases deleteUserRecord_cases calls.deleted userId users with ⟨succeeds, run⟩ | ⟨fails, error, users', run, kept⟩
    · exact Or.inl ⟨⟨token, succeeds⟩, run⟩
    · refine Or.inr ⟨fun succeeds => ?_, error, users', run, kept⟩
      cases fails.symm.trans succeeds.2

end deleting

end FoodDelivery.AuthService
