import FoodDelivery.Auth.Keycloak
import FoodDelivery.Lib.Except
import FoodDelivery.Lib.Hexadecimal

namespace FoodDelivery.AuthService

open Messaging (RequestResult)

/-- The password of the command goes to Keycloak and nowhere else. -/
structure ProvisionUserCommand where
  tenantId : String
  username : String
  email : String
  role : String

/-- The groups of `UUID_PATTERN`: their lengths, and the characters that their
first one may be. -/
def uuidGroups : List (Nat × (Char → Bool)) :=
  [(8, Hexadecimal.isDigit), (4, Hexadecimal.isDigit), (4, fun c => '1' ≤ c && c ≤ '5'),
    (4, fun c => ['8', '9', 'a', 'b', 'A', 'B'].contains c), (12, Hexadecimal.isDigit)]

def isUuid (value : String) : Bool :=
  let groups := value.toList.splitOn '-'
  groups.length = uuidGroups.length && (groups.zip uuidGroups).all fun (group, length, first) =>
    group.length = length && group.all Hexadecimal.isDigit && (group.head?.map first).getD false

def assertValidTenantId (value : String) : Except ProvisionError Unit :=
  if isUuid value then return else throw (.invalidUuid "tenant_id" value)

structure UserTenantLink where
  id : String
  keycloakUserId : String
  tenantId : String
  role : String
  deriving DecidableEq, Repr

def UserTenantLink.create (link : UserTenantLink) : Except ProvisionError UserTenantLink :=
  if link.keycloakUserId = "" then throw .keycloakUserIdRequired
  else if link.role = "" then throw .roleRequired
  else return link

/-- Keycloak's users and the rows of `user_tenant_map`. -/
structure World where
  users : List KeycloakUser
  links : List UserTenantLink

/-- The answers to the requests of `execute`: the id of the tenant found, what
becomes of the requests to Keycloak, the new row's id and what becomes of its
insert. -/
structure ProvisionUserCalls where
  findById : Except ProvisionError (Option String)
  createUser : CreateUserCalls
  linkId : String
  save : RequestResult
  deleteUser : DeleteUserCalls

def compensate (calls : ProvisionUserCalls) (keycloakUserId : String) (cause : ProvisionError) (world : World) :
    Except ProvisionError UserTenantLink × World :=
  match deleteUser calls.deleteUser keycloakUserId world.users with
  | (.error _, users) => (throw (.reconciliation keycloakUserId), { world with users })
  | (.ok (), users) => (throw cause, { world with users })

/-- The row may be stored although the insert fails. -/
def saveLink (calls : ProvisionUserCalls) (link : UserTenantLink) (world : World) :
    Except ProvisionError UserTenantLink × World :=
  match calls.save with
  | .done => (return link, { world with links := world.links ++ [link] })
  | .lostAnswer => (throw .thrown, { world with links := world.links ++ [link] })
  | .failed => (throw .thrown, world)

def register (calls : ProvisionUserCalls) (link : UserTenantLink) (world : World) :
    Except ProvisionError UserTenantLink × World :=
  match link.create with
  | .error linkError => compensate calls link.keycloakUserId linkError world
  | .ok link =>
    match saveLink calls link world with
    | (.ok saved, world) => (return saved, world)
    | (.error linkError, world) => compensate calls link.keycloakUserId linkError world

def execute (calls : ProvisionUserCalls) (command : ProvisionUserCommand) (world : World) :
    Except ProvisionError UserTenantLink × World :=
  match assertValidTenantId command.tenantId with
  | .error error => (throw error, world)
  | .ok () =>
    match calls.findById with
    | .error error => (throw error, world)
    | .ok none => (throw (.entityNotFound "Tenant" command.tenantId), world)
    | .ok (some tenantId) =>
      let input := { tenantId, username := command.username, email := command.email, role := command.role }
      match createUser calls.createUser input world.users with
      | (.error error, users) => (throw error, { world with users })
      | (.ok keycloakUserId, users) =>
        register calls { id := calls.linkId, keycloakUserId, tenantId, role := command.role } { world with users }

/-- The ids that Keycloak and `randomUUID` give are new, and not empty. -/
structure ProvisionUserCalls.Fresh (calls : ProvisionUserCalls) (world : World) : Prop where
  user : calls.createUser.id ∉ ids world.users
  named : calls.createUser.id ≠ ""
  link : ∀ row ∈ world.links, row.id ≠ calls.linkId

/-- A user with its tenant and role, and the row that links it to them. -/
def World.Provisioned (world : World) (calls : ProvisionUserCalls) (command : ProvisionUserCommand)
    (link : UserTenantLink) : Prop :=
  ∃ tenantId, calls.findById = .ok (some tenantId) ∧
    (∃ user ∈ world.users, user.id = calls.createUser.id ∧ user.tenantId = tenantId ∧ command.role ∈ user.roles) ∧
    link ∈ world.links ∧ link.keycloakUserId = calls.createUser.id ∧ link.tenantId = tenantId ∧ link.role = command.role

/-- Neither the user nor the row is there. -/
def World.Untouched (world : World) (calls : ProvisionUserCalls) : Prop :=
  calls.createUser.id ∉ ids world.users ∧ ∀ row ∈ world.links, row.id ≠ calls.linkId

/-- What `execute` promises of its result. -/
def AllOrNothing (calls : ProvisionUserCalls) (command : ProvisionUserCommand) :
    Except ProvisionError UserTenantLink × World → Prop
  | (.ok link, world) => world.Provisioned calls command link
  | (.error error, world) => error.names calls.createUser.id = true ∨ world.Untouched calls

/-- The creation of a user is asked for. -/
def ProvisionUserCalls.Asks (calls : ProvisionUserCalls) (command : ProvisionUserCommand) : Prop :=
  isUuid command.tenantId = true ∧ ∃ tenantId, calls.findById = .ok (some tenantId)

/-- A user that Keycloak creates is answered with its id; and where the row is
stored although the insert fails, the compensation fails as well. -/
structure ProvisionUserCalls.Answered (calls : ProvisionUserCalls) (command : ProvisionUserCommand) : Prop where
  created : calls.createUser.answered = some calls.createUser.id
  stored : calls.createUser.assigns = true → command.role ≠ "" → calls.save = .lostAnswer → ¬ calls.deleteUser.succeeds

section specs

variable {calls : ProvisionUserCalls} {command : ProvisionUserCommand} {world : World}

theorem compensate_cases (calls : ProvisionUserCalls) (keycloakUserId : String) (cause : ProvisionError) (world : World) :
    (calls.deleteUser.succeeds ∧ compensate calls keycloakUserId cause world =
      (.error cause, { world with users := world.users.filter fun user => user.id ≠ keycloakUserId })) ∨
    ¬ calls.deleteUser.succeeds ∧ ∃ users, compensate calls keycloakUserId cause world =
      (.error (.reconciliation keycloakUserId), { world with users }) ∧
        ∀ id, id ≠ keycloakUserId → (id ∈ ids users ↔ id ∈ ids world.users) := by
  unfold compensate
  rcases deleteUser_cases calls.deleteUser keycloakUserId world.users with ⟨succeeds, run⟩ | ⟨fails, error, users, run, kept⟩
  · rw [run]
    exact Or.inl ⟨succeeds, rfl⟩
  · rw [run]
    exact Or.inr ⟨fails, users, rfl, kept⟩

/-- A compensation neither reports nor removes another user than its own. -/
theorem compensate_other {cause : ProvisionError} {keycloakUserId id : String} (other : id ≠ keycloakUserId)
    (names : cause.names id = false) :
    ∃ error world', compensate calls keycloakUserId cause world = (.error error, world') ∧ error.names id = false ∧
      (id ∈ ids world'.users ↔ id ∈ ids world.users) := by
  rcases compensate_cases calls keycloakUserId cause world with ⟨-, run⟩ | ⟨-, users, run, kept⟩
  · refine ⟨_, _, run, names, ?_⟩
    rw [mem_ids_filter]
    exact and_iff_left other
  · exact ⟨_, _, run, decide_eq_false (Ne.symm other), kept id other⟩

/-- A compensation of the call's own user reports it or removes it. -/
theorem compensate_own {cause : ProvisionError} (links : ∀ row ∈ world.links, row.id ≠ calls.linkId) :
    AllOrNothing calls command (compensate calls calls.createUser.id cause world) := by
  rcases compensate_cases calls calls.createUser.id cause world with ⟨-, run⟩ | ⟨-, users, run, -⟩
  · rw [run]
    exact Or.inr ⟨fun left => (mem_ids_filter.mp left).2 rfl, links⟩
  · rw [run]
    exact Or.inl (decide_eq_true rfl)

/-- The row is saved where it has a role, and a failure is compensated for. -/
theorem register_eq {link : UserTenantLink} (named : link.keycloakUserId ≠ "") : register calls link world =
    if link.role = "" then compensate calls link.keycloakUserId .roleRequired world
    else match calls.save with
      | .done => (.ok link, { world with links := world.links ++ [link] })
      | .lostAnswer => compensate calls link.keycloakUserId .thrown { world with links := world.links ++ [link] }
      | .failed => compensate calls link.keycloakUserId .thrown world := by
  unfold register UserTenantLink.create saveLink
  rw [if_neg named]
  by_cases empty : link.role = ""
  · rw [if_pos empty, if_pos empty]
    rfl
  · rw [if_neg empty, if_neg empty]
    cases calls.save <;> rfl

/-- A user that is not the one registered is still there afterwards. -/
theorem register_other {link : UserTenantLink} {id : String} (other : id ≠ link.keycloakUserId) :
    (∃ world', register calls link world = (.ok link, world')) ∨
    ∃ error world', register calls link world = (.error error, world') ∧ error.names id = false ∧
      (id ∈ ids world'.users ↔ id ∈ ids world.users) := by
  by_cases named : link.keycloakUserId = ""
  · unfold register UserTenantLink.create
    rw [if_pos named]
    exact Or.inr (compensate_other other rfl)
  · rw [register_eq named]
    split
    · exact Or.inr (compensate_other other rfl)
    · cases calls.save with
      | done => exact Or.inl ⟨_, rfl⟩
      | lostAnswer => exact Or.inr (compensate_other other rfl)
      | failed => exact Or.inr (compensate_other other rfl)

theorem register_own_iff {link : UserTenantLink} (named : calls.createUser.id ≠ "")
    (links : ∀ row ∈ world.links, row.id ≠ calls.linkId) (id : link.id = calls.linkId)
    (own : link.keycloakUserId = calls.createUser.id) (found : calls.findById = .ok (some link.tenantId))
    (role : link.role = command.role)
    (user : ∃ user ∈ world.users, user.id = calls.createUser.id ∧ user.tenantId = link.tenantId ∧ command.role ∈ user.roles) :
    AllOrNothing calls command (register calls link world) ↔
      (command.role ≠ "" → calls.save = .lostAnswer → ¬ calls.deleteUser.succeeds) := by
  replace named : link.keycloakUserId ≠ "" := own ▸ named
  rw [register_eq named, role, own]
  by_cases empty : command.role = ""
  · rw [if_pos empty]
    exact iff_of_true (compensate_own links) fun some => absurd empty some
  · rw [if_neg empty]
    cases save : calls.save with
    | done =>
      refine iff_of_true ⟨link.tenantId, found, user, List.mem_append_right _ (List.mem_singleton_self link), own, rfl, role⟩ ?_
      exact fun _ => nofun
    | failed => exact iff_of_true (compensate_own links) fun _ => nofun
    | lostAnswer =>
      rcases compensate_cases calls calls.createUser.id .thrown { world with links := world.links ++ [link] } with
        ⟨succeeds, run⟩ | ⟨fails, users, run, -⟩
      · show AllOrNothing calls command (compensate calls _ .thrown _) ↔ _
        rw [run]
        refine iff_of_false ?_ fun reports => reports empty rfl succeeds
        rintro (named | untouched)
        · cases named
        · exact untouched.2 link (List.mem_append_right _ (List.mem_singleton_self link)) id
      · show AllOrNothing calls command (compensate calls _ .thrown _) ↔ _
        rw [run]
        exact iff_of_true (Or.inl (decide_eq_true rfl)) fun _ _ => fails

/-- Provisioning is all or nothing exactly as long as a user that is created is
answered with its id and a row that is stored is not reported as failed. -/
theorem execute_all_or_nothing_iff (fresh : calls.Fresh world) :
    AllOrNothing calls command (execute calls command world) ↔
      (calls.Asks command → calls.createUser.Creates → calls.Answered command) := by
  unfold execute assertValidTenantId
  have untouched : world.Untouched calls := ⟨fresh.user, fresh.link⟩
  cases uuid : isUuid command.tenantId with
  | false => exact iff_of_true (Or.inr untouched) fun asks => by cases uuid.symm.trans asks.1
  | true =>
    simp only [if_true, pure, Except.pure]
    cases found : calls.findById with
    | error error =>
      refine iff_of_true (Or.inr untouched) fun ⟨_, tenantId, found'⟩ => ?_
      cases found.symm.trans found'
    | ok tenant =>
      cases tenant with
      | none =>
        refine iff_of_true (Or.inr untouched) fun ⟨_, tenantId, found'⟩ => ?_
        cases found.symm.trans found'
      | some tenantId =>
        have asks : calls.Asks command := ⟨uuid, tenantId, found⟩
        simp only
        generalize inputs : ({ tenantId, username := command.username, email := command.email, role := command.role } :
          CreateKeycloakUserInput) = input
        have ending := @createUser_ending world.users calls.createUser input fresh.user
        generalize createUser calls.createUser input world.users = run at ending
        cases ending with
        | nothing creates absent =>
          exact iff_of_true (Or.inr ⟨absent, fresh.link⟩) fun _ creates' => absurd creates' creates
        | @astray result after creates answered left notOwn names =>
          have fails : ¬ (calls.Asks command → calls.createUser.Creates → calls.Answered command) :=
            fun condition => answered (condition asks creates).created
          refine iff_of_false ?_ fails
          cases result with
          | error error =>
            rintro (reported | untouched)
            · cases (names error rfl).symm.trans reported
            · exact untouched.1 left
          | ok keycloakUserId =>
            have other : calls.createUser.id ≠ keycloakUserId := fun own => notOwn (congrArg Except.ok own.symm)
            simp only
            rcases @register_other calls { world with users := after } ⟨calls.linkId, keycloakUserId, tenantId, command.role⟩
              calls.createUser.id other with
              ⟨world', run⟩ | ⟨error, world', run, names, kept⟩
            · rw [run]
              exact fun ⟨_, _, _, _, own, _⟩ => other own.symm
            · rw [run]
              rintro (reported | untouched)
              · cases names.symm.trans reported
              · exact untouched.1 (kept.mpr left)
        | @created after creates answered assigns user =>
          subst inputs
          simp only
          rw [@register_own_iff calls command { world with users := after }
            ⟨calls.linkId, calls.createUser.id, tenantId, command.role⟩ fresh.named fresh.link rfl rfl found rfl user]
          constructor
          · exact fun stored _ _ => ⟨answered, fun _ => stored⟩
          · exact fun condition => (condition asks creates).stored assigns
        | reported creates answered assigns =>
          refine iff_of_true (Or.inl (decide_eq_true rfl)) fun _ _ => ⟨answered, fun assigned => ?_⟩
          cases assigns.symm.trans assigned
        | removed creates answered assigns absent =>
          refine iff_of_true (Or.inr ⟨absent, fresh.link⟩) fun _ _ => ⟨answered, fun assigned => ?_⟩
          cases assigns.symm.trans assigned

end specs

section samples

def applied (response : Option Response) : Outcome := { applied := true, response, truthful := fun _ _ _ => rfl }

def sampleCreateUser (created : Option Response) : CreateUserCalls where
  token := some ⟨200, none, true⟩
  id := "kc-42"
  created := applied created
  role := some ⟨200, none, true⟩
  assigned := applied (some ⟨204, none, true⟩)
  undone := { applied (some ⟨204, none, true⟩) with absent := fun _ _ _ => rfl }

def sampleCalls (created : Option Response) : ProvisionUserCalls where
  findById := .ok (some "11111111-1111-4111-8111-111111111111")
  createUser := sampleCreateUser created
  linkId := "link-1"
  save := .done
  deleteUser := { token := some ⟨200, none, true⟩, deleted := (sampleCreateUser created).undone }

def sampleCommand : ProvisionUserCommand where
  tenantId := "11111111-1111-4111-8111-111111111111"
  username := "olivia"
  email := "olivia@acme.test"
  role := "customer"

theorem sampleCalls_fresh (created : Option Response) : (sampleCalls created).Fresh ⟨[], []⟩ :=
  ⟨List.not_mem_nil, (by decide : "kc-42" ≠ ""), nofun⟩

def sampleCreated : Option Response := some ⟨201, some "http://kc.test/users/kc-42", true⟩

/-- Keycloak answers the creation with the user's location. -/
theorem execute_all_or_nothing_created :
    AllOrNothing (sampleCalls sampleCreated) sampleCommand (execute (sampleCalls sampleCreated) sampleCommand ⟨[], []⟩) := by
  have answered : (sampleCalls sampleCreated).createUser.answered = some "kc-42" := by decide
  have condition : (sampleCalls sampleCreated).Answered sampleCommand := ⟨answered, fun _ _ lost => by cases lost⟩
  rw [execute_all_or_nothing_iff (sampleCalls_fresh sampleCreated)]
  exact fun _ _ => condition

/-- The connection fails after Keycloak has created the user, which is neither
removed nor reported. -/
theorem created_unanswered : ¬ AllOrNothing (sampleCalls none) sampleCommand
    (execute (sampleCalls none) sampleCommand ⟨[], []⟩) := by
  have uuid : isUuid sampleCommand.tenantId = true := by decide
  have run : execute (sampleCalls none) sampleCommand ⟨[], []⟩ = (.error .thrown,
      ⟨[⟨"kc-42", "olivia", "olivia@acme.test", "11111111-1111-4111-8111-111111111111", []⟩], []⟩) := by
    unfold execute assertValidTenantId
    rw [if_pos uuid]
    rfl
  rw [run]
  rintro (reported | untouched)
  · cases reported
  · exact untouched.1 (List.mem_singleton_self _)

end samples

end FoodDelivery.AuthService
