import FoodDelivery.Gateway.UpstreamUrl

namespace FoodDelivery.Gateway

open Settings

/-- Where a service is configured to be reached; the URL may end in a slash. -/
structure ServiceUrl where
  secure : Bool
  authority : List Char
  path : List String
  slash : Bool
  nonempty : authority ≠ []
  plain : ∀ c ∈ authority, isVisible c ∧ ¬ endsAuthority c ∧ c ≠ '@'
  segments : ∀ segment ∈ path, PlainSegment segment ∧ segment ≠ ""

def ServiceUrl.text (service : ServiceUrl) : String :=
  .ofList (scheme service.secure ++ '/' :: '/' :: (service.authority ++ joinPath service.path) ++ if service.slash then ['/'] else [])

/-- A request target in origin form, which has neither blanks nor a fragment. -/
structure RequestTarget where
  originalUrl : List Char
  rooted : originalUrl.head? = some '/'
  plain : ∀ c ∈ originalUrl, isVisible c ∧ c.toNat ≠ 0xa0 ∧ c.toNat ≠ 0xfeff

inductive ProxyController
  | catalog
  | orders
  | search
  | delivery
  | media
  | config
  | reviews
  | analytics
  | auth
  deriving DecidableEq, Repr

namespace ProxyController

def gatewayPrefix : ProxyController → String
  | .catalog => "/api/v1/catalog"
  | .auth => "/api/v1/auth"
  | _ => "/api/v1"

/-- The path of the controller under the global prefix and the version. -/
def route : ProxyController → String
  | .catalog => "/api/v1/catalog"
  | .orders => "/api/v1/orders"
  | .search => "/api/v1/search"
  | .delivery => "/api/v1/delivery"
  | .media => "/api/v1/media"
  | .config => "/api/v1/config"
  | .reviews => "/api/v1/reviews"
  | .analytics => "/api/v1/analytics"
  | .auth => "/api/v1/auth"

/-- `@All()`, where a slash may end the path. -/
def matchesRoot (controller : ProxyController) (rest : List Char) : Bool :=
  controller ≠ .auth ∧ (rest = [] ∨ rest = ['/'])

/-- `@All('*path')`, whose parameter is decoded. -/
def matchesPath : List Char → Bool
  | '/' :: path => path ≠ [] ∧ (path.splitOn '/').all fun segment => (decodeURIComponent (.ofList segment)).isSome
  | _ => false

/-- The routes of the session controller, which come first. -/
def isSession (controller : ProxyController) (method : String) (rest : List Char) : Bool :=
  controller = .auth ∧ method = "POST" ∧
    rest.map Char.toLower ∈ ["/token", "/refresh", "/logout"].flatMap fun path => [path.toList, path.toList ++ ['/']]

/-- Whether a request is routed to the controller: the letters of its prefix
may have any case. -/
def routes (controller : ProxyController) (method : String) (target : RequestTarget) : Bool :=
  let pathname := beforeQuery target.originalUrl
  let rest := pathname.drop controller.route.toList.length
  (pathname.take controller.route.toList.length).map Char.toLower = controller.route.toList ∧
    (controller.matchesRoot rest ∨ matchesPath rest) ∧ ¬ controller.isSession method rest

end ProxyController

def indexOf (pattern : List Char) : List Char → Option Nat
  | [] => if pattern = [] then some 0 else none
  | c :: rest => if pattern <+: c :: rest then some 0 else (indexOf pattern rest).map (· + 1)

/-- What `slice` leaves of the request's URL; `indexOf` gives -1 where it finds nothing. -/
def suffix (gatewayPrefix originalUrl : List Char) : List Char :=
  match indexOf gatewayPrefix originalUrl with
  | some index => originalUrl.drop (index + gatewayPrefix.length)
  | none => originalUrl.drop (gatewayPrefix.length - 1)

def targetUrl (controller : ProxyController) (service : ServiceUrl) (target : RequestTarget) : String :=
  stripSlash service.text ++ "/api/v1" ++ .ofList (suffix controller.gatewayPrefix.toList target.originalUrl)

/-- The URL that `fetch` parses the target to. -/
def forwardedUrl (controller : ProxyController) (service : ServiceUrl) (target : RequestTarget) : Option Url :=
  parseUrl (targetUrl controller service target).toList

/-- What followed the gateway's prefix. -/
def ProxyController.followed (controller : ProxyController) (target : RequestTarget) : List Char :=
  target.originalUrl.drop controller.gatewayPrefix.toList.length

/-- The request goes to the service, below the service's `/api/v1`, where it
asks for what followed the gateway's prefix. -/
structure Below (service : ServiceUrl) (followed : List Char) (sent : Url) : Prop where
  secure : sent.secure = service.secure
  authority : sent.authority = service.authority
  below : ∃ below, sent.pathname = joinPath service.path ++ "/api/v1".toList ++ below ∧
    (below = [] ∨ below.head? = some '/') ∧ below ++ sent.search = followed

/-- Nothing in the text means anything else to the URL parser: no character of
it is escaped or a backslash, no segment is a dot segment, and a question mark
has a query. -/
structure Unchanged (text : List Char) : Prop where
  path : ∀ c ∈ beforeQuery text, isPathEscaped c = false ∧ c ≠ '\\'
  segments : ∀ segment ∈ (beforeQuery text).splitOn '/', ¬ isDoubleDot (.ofList segment) ∧ ¬ isSingleDot (.ofList segment)
  query : ∀ c ∈ (fromQuery text).drop 1, isQueryEscaped c = false
  asked : fromQuery text ≠ ['?']

section texts

variable {pattern text : List Char}

theorem indexOf_of_prefix (start : pattern <+: text) : indexOf pattern text = some 0 := by
  cases text with
  | nil => exact if_pos (List.prefix_nil.mp start)
  | cons c rest => exact if_pos start

theorem prefix_of_indexOf {index : Nat} (found : indexOf pattern text = some index) : pattern <+: text.drop index := by
  induction text generalizing index with
  | nil =>
    unfold indexOf at found
    split at found
    · next empty =>
      rw [empty]
      exact List.nil_prefix
    · cases found
  | cons c rest ih =>
    unfold indexOf at found
    split at found
    · next start =>
      cases found
      exact start
    · obtain ⟨earlier, inRest, rfl⟩ := Option.map_eq_some_iff.mp found
      exact ih inRest

end texts

/-- The path under which a service has its routes. -/
def ServiceUrl.basePath (service : ServiceUrl) : List String := service.path ++ ["api", "v1"]

theorem joinPath_basePath (service : ServiceUrl) : joinPath service.basePath = joinPath service.path ++ "/api/v1".toList :=
  joinPath_append service.path ["api", "v1"]

theorem ServiceUrl.basePath_plain (service : ServiceUrl) : ∀ segment ∈ service.basePath, PlainSegment segment := by
  intro segment member
  rcases List.mem_append.mp member with own | version
  · exact (service.segments segment own).1
  · have each : ∀ segment ∈ ["api", "v1"],
        segment.toList.all (fun c => isPathEscaped c = false ∧ c ≠ '/' ∧ c ≠ '\\') = true ∧
        ¬ isDoubleDot segment ∧ ¬ isSingleDot segment := by decide
    obtain ⟨plain, notDouble, notSingle⟩ := each segment version
    exact ⟨List.all_iff_forall_prop.mp plain, notDouble, notSingle⟩

theorem not_mem_basePath (service : ServiceUrl) : '?' ∉ joinPath service.basePath := by
  intro member
  cases (joinPath_plain service.basePath_plain member).1

theorem isVisible_of_path {c : Char} (plain : isPathEscaped c = false) : isVisible c := by
  have notEscaped := of_decide_eq_false plain
  refine decide_eq_true ⟨fun blank => notEscaped (Or.inl (of_decide_eq_true blank)), ?_⟩
  rintro rfl
  exact notEscaped (by decide)

/-- Without the slash that may end it, the URL of a service ends in none. -/
theorem ServiceUrl.getLast?_ne (service : ServiceUrl) : (service.authority ++ joinPath service.path).getLast? ≠ some '/' := by
  intro last
  rw [List.getLast?_append] at last
  cases path : (joinPath service.path).getLast? with
  | none =>
    rw [path, Option.none_or] at last
    exact (service.plain '/' (List.mem_of_getLast? last)).2.1 (by decide)
  | some c =>
    rw [path, Option.some_or] at last
    cases last
    have nonempty : service.path ≠ [] := by
      intro empty
      rw [empty] at path
      cases path
    rw [← List.dropLast_append_getLast nonempty, joinPath_append] at path
    obtain ⟨plain, named⟩ := service.segments _ (List.getLast_mem nonempty)
    generalize service.path.getLast nonempty = segment at *
    have ends : segment.toList.getLast? = some '/' := by
      have written : segment.toList ++ joinPath [] ≠ [] := fun empty =>
        named (String.toList_eq_nil_iff.mp (List.append_eq_nil_iff.mp empty).1)
      rw [List.getLast?_append_of_ne_nil _ (by simp [joinPath]), joinPath_cons, List.getLast?_cons_of_ne_nil written] at path
      simpa [joinPath] using path
    exact (plain.plain '/' (List.mem_of_getLast? ends)).2.1 rfl

theorem stripSlash_service (service : ServiceUrl) :
    (stripSlash service.text).toList = scheme service.secure ++ '/' :: '/' :: (service.authority ++ joinPath service.path) := by
  unfold stripSlash ServiceUrl.text
  rw [String.toList_ofList]
  by_cases slashed : service.slash
  · rw [if_pos slashed, List.getLast?_concat, if_pos rfl, List.dropLast_concat, String.toList_ofList]
  · have last : (scheme service.secure ++ '/' :: '/' :: (service.authority ++ joinPath service.path)).getLast? ≠ some '/' := by
      have nonempty : service.authority ++ joinPath service.path ≠ [] := List.append_ne_nil_of_left_ne_nil service.nonempty _
      rw [List.getLast?_append_of_ne_nil _ (List.cons_ne_nil _ _), List.getLast?_cons_of_ne_nil (List.cons_ne_nil _ _),
        List.getLast?_cons_of_ne_nil nonempty]
      exact service.getLast?_ne
    rw [if_neg slashed, List.append_nil, if_neg last, String.toList_ofList]

section forwarded

variable {controller : ProxyController} {service : ServiceUrl} {target : RequestTarget}

theorem suffix_visible (controller : ProxyController) (target : RequestTarget) :
    ∀ c ∈ suffix controller.gatewayPrefix.toList target.originalUrl, isVisible c := by
  intro c member
  refine (target.plain c ?_).1
  unfold suffix at member
  split at member <;> exact List.mem_of_mem_drop member

/-- The URL parser keeps the service and resolves what was made its path. -/
theorem forwardedUrl_eq (controller : ProxyController) (service : ServiceUrl) (target : RequestTarget) :
    forwardedUrl controller service target =
      some { secure := service.secure
             authority := service.authority
             path := parsePath ((joinPath service.basePath ++
               beforeQuery (suffix controller.gatewayPrefix.toList target.originalUrl)).drop 1)
             query := parseQuery (fromQuery (suffix controller.gatewayPrefix.toList target.originalUrl)) } := by
  obtain ⟨first, others, segments⟩ := List.exists_cons_of_ne_nil (by simp [ServiceUrl.basePath] : service.basePath ≠ [])
  obtain ⟨rest, rooted⟩ : ∃ rest, joinPath service.basePath = '/' :: rest := ⟨_, by rw [segments, joinPath_cons]⟩
  have visible : ∀ c ∈ rest ++ suffix controller.gatewayPrefix.toList target.originalUrl, isVisible c := by
    refine List.forall_mem_append.mpr ⟨fun c member => ?_, suffix_visible controller target⟩
    have inPath : c ∈ joinPath service.basePath := by
      rw [rooted]
      exact List.mem_cons_of_mem _ member
    exact isVisible_of_path (joinPath_plain service.basePath_plain inPath).1
  have written : (targetUrl controller service target).toList = scheme service.secure ++ '/' :: '/' ::
      (service.authority ++ '/' :: (rest ++ suffix controller.gatewayPrefix.toList target.originalUrl)) := by
    have path : '/' :: (rest ++ suffix controller.gatewayPrefix.toList target.originalUrl) =
        joinPath service.path ++ ("/api/v1".toList ++ suffix controller.gatewayPrefix.toList target.originalUrl) := by
      rw [← List.append_assoc, ← joinPath_basePath, rooted, List.cons_append]
    rw [path, targetUrl, String.toList_append, String.toList_append, stripSlash_service]
    simp only [String.toList_ofList, List.append_assoc, List.cons_append]
  have plain : '?' ∉ rest := fun member => not_mem_basePath service (by rw [rooted]; exact List.mem_cons_of_mem _ member)
  rw [forwardedUrl, written, parseUrl_eq _ service.nonempty (fun c member => ⟨(service.plain c member).1, (service.plain c member).2.1⟩)
    visible, beforeQuery_append plain, fromQuery_append plain, rooted]
  rfl

end forwarded

section routing

theorem toLower_cases (c : Char) : c.toLower = c ∨ c.toNat < 128 := by
  unfold Char.toLower
  split
  · next upper => exact Or.inr (Nat.lt_of_le_of_lt upper.2 (by decide))
  · exact Or.inl rfl

theorem eq_slash_of_toLower {c : Char} (lower : c.toLower = '/') : c = '/' := by
  have each : ∀ n < 128, (Char.ofNat n).toLower = '/' → Char.ofNat n = '/' := by decide
  rcases toLower_cases c with same | ascii
  · exact same.symm.trans lower
  · have ofCode := each c.toNat ascii
    rw [Char.ofNat_toNat] at ofCode
    exact ofCode lower

/-- The characters that a prefix may end in. -/
theorem plain_of_toLower {c : Char} (lower : c.toLower ∈ ['1', 'g', 'h']) :
    isPathEscaped c = false ∧ c ≠ '/' ∧ c ≠ '\\' := by
  have each : ∀ n < 128, (Char.ofNat n).toLower ∈ ['1', 'g', 'h'] →
      isPathEscaped (Char.ofNat n) = false ∧ Char.ofNat n ≠ '/' ∧ Char.ofNat n ≠ '\\' := by decide
  have ascii : c.toNat < 128 := by
    rcases toLower_cases c with same | ascii
    · rw [same] at lower
      have codes : ∀ d ∈ ['1', 'g', 'h'], d.toNat < 128 := List.all_iff_forall_prop.mp (by decide)
      exact codes c lower
    · exact ascii
  have ofCode := each c.toNat ascii
  rw [Char.ofNat_toNat] at ofCode
  exact ofCode lower

theorem beforeQuery_of_fromQuery (text : List Char) : beforeQuery (fromQuery text) = [] := by
  rcases fromQuery_cases text with absent | ⟨query, present⟩
  · rw [absent]
    rfl
  · rw [present]
    exact List.takeWhile_cons_of_neg (by decide)

namespace ProxyController

theorem exists_route (controller : ProxyController) :
    ∃ below, controller.route.toList = controller.gatewayPrefix.toList ++ below ∧ (below = [] ∨ below.head? = some '/') := by
  refine ⟨controller.route.toList.drop controller.gatewayPrefix.toList.length, ?_, ?_⟩ <;> cases controller <;> decide

theorem exists_last (controller : ProxyController) :
    ∃ start last, controller.gatewayPrefix.toList = start ++ [last] ∧ last ∈ ['1', 'g', 'h'] := by
  refine ⟨controller.gatewayPrefix.toList.dropLast, controller.gatewayPrefix.toList.getLastD ' ', ?_, ?_⟩ <;>
    cases controller <;> decide

theorem matches_cases {controller : ProxyController} {rest : List Char}
    (found : controller.matchesRoot rest ∨ matchesPath rest) : rest = [] ∨ rest.head? = some '/' := by
  rcases found with root | path
  · rcases (of_decide_eq_true root).2 with rfl | rfl
    · exact Or.inl rfl
    · exact Or.inr rfl
  · unfold matchesPath at path
    split at path
    · exact Or.inr rfl
    · cases path

/-- A routed URL begins with the prefix of its controller but for the case of
letters, and what follows is at once another segment or none. -/
theorem routed {controller : ProxyController} {method : String} {target : RequestTarget} (routes : controller.routes method target) :
    (target.originalUrl.take controller.gatewayPrefix.toList.length).map Char.toLower = controller.gatewayPrefix.toList ∧
    '?' ∉ target.originalUrl.take controller.gatewayPrefix.toList.length ∧
    (beforeQuery (controller.followed target) = [] ∨ (beforeQuery (controller.followed target)).head? = some '/') := by
  obtain ⟨same, found, -⟩ := of_decide_eq_true routes
  obtain ⟨below, route, next⟩ := controller.exists_route
  have rest := matches_cases found
  have whole := beforeQuery_fromQuery target.originalUrl
  have noQuery := not_mem_beforeQuery target.originalUrl
  rw [followed]
  rw [route] at same rest
  generalize controller.gatewayPrefix.toList = start at *
  generalize pathIs : beforeQuery target.originalUrl = pathname at *
  generalize queryIs : fromQuery target.originalUrl = query at *
  obtain ⟨own, deeper, parts, lowerOwn, lowerDeeper⟩ := List.map_eq_append_iff.mp same
  have split := List.take_append_drop (start ++ below).length pathname
  generalize pathname.drop (start ++ below).length = remaining at *
  have path : own ++ (deeper ++ remaining) = pathname := by rw [← List.append_assoc, ← parts, split]
  have url : target.originalUrl = own ++ (deeper ++ remaining ++ query) := by
    rw [← whole, ← path, List.append_assoc]
  have length : own.length = start.length := by rw [← lowerOwn, List.length_map]
  have before : beforeQuery (deeper ++ remaining ++ query) = deeper ++ remaining := by
    rw [beforeQuery_append, ← queryIs, beforeQuery_of_fromQuery, List.append_nil]
    exact fun member => noQuery (path ▸ List.mem_append_right _ member)
  rw [url, List.take_left' length, List.drop_left' length, before]
  refine ⟨lowerOwn, fun member => noQuery (path ▸ List.mem_append_left _ member), ?_⟩
  cases deeper with
  | nil => exact rest
  | cons c others =>
    rw [← lowerDeeper] at next
    rcases next with none | first
    · cases none
    · exact Or.inr (congrArg some (eq_slash_of_toLower (Option.some.inj first)))

end ProxyController

end routing

section below

variable {service : ServiceUrl} {followed : List Char} {sent : Url}

theorem plain_of_mem_escape {escaped : Char → Bool} {text : List Char}
    (escapes : ∀ octet, ∀ c ∈ Percent.encodeByte (fun _ => false) octet, escaped c = false) {c : Char}
    (member : c ∈ escape escaped text) : escaped c = false := by
  rcases mem_escape member with ⟨-, plain⟩ | ⟨octet, inByte⟩
  · exact plain
  · exact escapes octet c inByte

theorem Unchanged.plain {text : List Char} (unchanged : Unchanged text) :
    ∀ segment ∈ segmentsOf (beforeQuery text), PlainSegment segment := by
  intro segment member
  obtain ⟨part, inTail, rfl⟩ := List.mem_map.mp member
  have inParts := List.mem_of_mem_tail inTail
  obtain ⟨notDouble, notSingle⟩ := unchanged.segments part inParts
  refine ⟨fun c inPart => ?_, notDouble, notSingle⟩
  rw [String.toList_ofList] at inPart
  obtain ⟨plain, notBackslash⟩ := unchanged.path c (mem_of_mem_splitOn inParts inPart)
  refine ⟨plain, ?_, notBackslash⟩
  rintro rfl
  exact Delimited.not_mem_of_mem_splitOn inParts inPart

theorem splitOn_rooted {text : List Char} (rooted : text = [] ∨ text.head? = some '/') :
    text.splitOn '/' = [] :: (text.splitOn '/').tail := by
  rcases rooted with rfl | first
  · rfl
  · obtain ⟨rest, rfl⟩ := List.head?_eq_some_iff.mp first
    rw [List.splitOn_cons_eq_if_modifyHead, if_pos (beq_self_eq_true _), List.tail_cons]

theorem segmentsOf_free (text : List Char) : ∀ segment ∈ segmentsOf text, '/' ∉ segment.toList := by
  intro segment member
  obtain ⟨part, inTail, rfl⟩ := List.mem_map.mp member
  rw [String.toList_ofList]
  exact Delimited.not_mem_of_mem_splitOn (List.mem_of_mem_tail inTail)

theorem Url.search_cases (url : Url) :
    url.search = [] ∨ ∃ query, url.query = some query ∧ query ≠ [] ∧ url.search = '?' :: query := by
  unfold search
  split
  · exact Or.inl rfl
  · exact Or.inl rfl
  · next query asked written => exact Or.inr ⟨query, written, asked, rfl⟩

/-- What is asked for below the base path is the path and the query of what
followed the prefix. -/
theorem Below.parts (below : Below service followed sent) (normal : ∀ segment ∈ sent.path, PlainSegment segment) :
    sent.pathname = joinPath service.basePath ++ beforeQuery followed ∧
    (beforeQuery followed = [] ∨ (beforeQuery followed).head? = some '/') ∧ sent.search = fromQuery followed := by
  obtain ⟨rest, path, rooted, whole⟩ := below.below
  have noQuery : '?' ∉ rest := by
    intro member
    have inPath : '?' ∈ sent.pathname := by
      rw [path]
      exact List.mem_append_right _ member
    cases (joinPath_plain normal inPath).1
  have query : beforeQuery sent.search = [] ∧ fromQuery sent.search = sent.search := by
    rcases sent.search_cases with absent | ⟨query, -, -, present⟩
    · rw [absent]
      exact ⟨rfl, rfl⟩
    · rw [present]
      exact ⟨List.takeWhile_cons_of_neg (by decide), List.dropWhile_cons_of_neg (by decide)⟩
  rw [← whole, beforeQuery_append noQuery, fromQuery_append noQuery, query.1, query.2, List.append_nil, joinPath_basePath]
  exact ⟨path, rooted, rfl⟩

theorem Below.path_eq (below : Below service followed sent) (normal : ∀ segment ∈ sent.path, PlainSegment segment) :
    sent.path = service.basePath ++ segmentsOf (beforeQuery followed) := by
  obtain ⟨path, rooted, -⟩ := below.parts normal
  have joined : joinPath sent.path = joinPath (service.basePath ++ segmentsOf (beforeQuery followed)) := by
    rw [joinPath_append, joinPath_segmentsOf rooted]
    exact path
  have split := congrArg (List.splitOn '/') joined
  rw [splitOn_joinPath, splitOn_joinPath] at split
  · exact List.map_injective_iff.mpr (fun s s' same => String.toList_inj.mp same) (List.cons.inj split).2
  · intro segment member separator
    rcases List.mem_append.mp member with own | further
    · exact ((service.basePath_plain segment own).plain '/' separator).2.1 rfl
    · exact segmentsOf_free _ segment further separator
  · exact fun segment member separator => ((normal segment member).plain '/' separator).2.1 rfl

/-- What is asked for is in the normal form of a URL. -/
theorem Below.unchanged (below : Below service followed sent) (normal : ∀ segment ∈ sent.path, PlainSegment segment)
    (escaped : ∀ query, sent.query = some query → ∀ c ∈ query, isQueryEscaped c = false) : Unchanged followed := by
  obtain ⟨path, rooted, query⟩ := below.parts normal
  have segments := below.path_eq normal
  refine ⟨fun c member => ?_, fun part inParts => ?_, fun c member => ?_, ?_⟩
  · have inPath : c ∈ sent.pathname := by
      rw [path]
      exact List.mem_append_right _ member
    exact joinPath_plain normal inPath
  · have plain : PlainSegment (.ofList part) := by
      rw [splitOn_rooted rooted] at inParts
      rcases List.mem_cons.mp inParts with rfl | inTail
      · exact PlainSegment.empty
      · refine normal _ ?_
        rw [segments]
        exact List.mem_append_right _ (List.mem_map_of_mem inTail)
    exact ⟨plain.notDouble, plain.notSingle⟩
  · rw [← query] at member
    rcases sent.search_cases with absent | ⟨own, written, -, present⟩
    · rw [absent] at member
      cases member
    · rw [present] at member
      exact escaped own written c member
  · rw [← query]
    rcases sent.search_cases with absent | ⟨own, -, asked, present⟩
    · rw [absent]
      exact List.ne_nil_of_mem (List.mem_singleton_self _) |>.symm
    · rw [present]
      exact fun same => asked (List.cons.inj same).2

end below

section forwarding

variable {controller : ProxyController} {service : ServiceUrl} {method : String} {target : RequestTarget} {sent : Url}

theorem forwardedUrl_normal (forwarded : forwardedUrl controller service target = some sent) :
    (∀ segment ∈ sent.path, PlainSegment segment) ∧
    ∀ query, sent.query = some query → ∀ c ∈ query, isQueryEscaped c = false := by
  rw [forwardedUrl_eq] at forwarded
  cases forwarded
  refine ⟨parsePath_plain _, fun query written c member => ?_⟩
  rcases fromQuery_cases (suffix controller.gatewayPrefix.toList target.originalUrl) with absent | ⟨own, present⟩
  · rw [absent] at written
    cases written
  · rw [present] at written
    cases written
    exact plain_of_mem_escape (fun octet d inByte => (encodeByte_plain inByte).2.1) member

/-- What the prefix is found at the start of is sent as it is. -/
theorem below_of_prefix (routes : controller.routes method target)
    (start : controller.gatewayPrefix.toList <+: target.originalUrl) (unchanged : Unchanged (controller.followed target)) :
    ∃ sent, forwardedUrl controller service target = some sent ∧ Below service (controller.followed target) sent := by
  have rooted := (ProxyController.routed routes).2.2
  have whole : suffix controller.gatewayPrefix.toList target.originalUrl = controller.followed target := by
    simp only [suffix, indexOf_of_prefix start, Nat.zero_add]
    rfl
  have plain : ∀ segment ∈ service.basePath ++ segmentsOf (beforeQuery (controller.followed target)), PlainSegment segment :=
    List.forall_mem_append.mpr ⟨service.basePath_plain, unchanged.plain⟩
  have path : joinPath service.basePath ++ beforeQuery (controller.followed target) =
      joinPath (service.basePath ++ segmentsOf (beforeQuery (controller.followed target))) := by
    rw [joinPath_append, joinPath_segmentsOf rooted]
  refine ⟨_, forwardedUrl_eq controller service target, rfl, rfl, beforeQuery (controller.followed target), ?_, rooted, ?_⟩
  · rw [whole, Url.pathname, path, parsePath_joinPath (by simp [ServiceUrl.basePath]) plain, ← path, joinPath_basePath]
  · rw [whole, search_parseQuery_plain unchanged.asked unchanged.query, beforeQuery_fromQuery]

/-- A path that has lost some of its characters stays shorter. -/
theorem pathname_ne_of_dropped (service : ServiceUrl) {before : List Char} (plain : ∀ c ∈ before, isPathEscaped c = false) {n : Nat}
    (positive : 0 < n) (inside : n ≤ before.length) :
    joinPath (parsePath ((joinPath service.basePath ++ before.drop n).drop 1)) ≠ joinPath service.basePath ++ before := by
  intro same
  have all : ∀ c ∈ (joinPath service.basePath ++ before.drop n).drop 1, isPathEscaped c = false := by
    intro c member
    rcases List.mem_append.mp (List.mem_of_mem_drop member) with own | left
    · exact (joinPath_plain service.basePath_plain own).1
    · exact plain c (List.mem_of_mem_drop left)
  have shorter := length_parsePath_le all
  have base : 0 < (joinPath service.basePath).length := by
    rw [joinPath_basePath, List.length_append]
    exact Nat.add_pos_right _ (by decide)
  rw [same, List.length_drop, List.length_append, List.length_append, List.length_drop] at shorter
  omega

/-- So does a query. -/
theorem search_ne_of_dropped {query : List Char} (plain : ∀ c ∈ query, isQueryEscaped c = false) (n : Nat) {secure : Bool}
    {authority : List Char} {path : List String} :
    Url.search { secure, authority, path, query := parseQuery (fromQuery (query.drop n)) } ≠ '?' :: query := by
  intro same
  have part : ∀ c ∈ fromQuery (query.drop n), c ∈ query :=
    fun c member => List.mem_of_mem_drop ((List.dropWhile_suffix _).mem member)
  by_cases asked : fromQuery (query.drop n) = ['?']
  · rw [asked] at same
    cases same
  rw [search_parseQuery_plain asked fun c member => plain c (part c (List.mem_of_mem_drop member))] at same
  have shorter : (fromQuery (query.drop n)).length ≤ (query.drop n).length := (List.dropWhile_suffix _).length_le
  rw [same, List.length_cons, List.length_drop] at shorter
  omega

/-- A prefix that is found further on leaves less than what followed. -/
theorem not_below_later {index : Nat} (found : indexOf controller.gatewayPrefix.toList target.originalUrl = some (index + 1))
    (forwarded : forwardedUrl controller service target = some sent) : ¬ Below service (controller.followed target) sent := by
  intro below
  obtain ⟨normal, escaped⟩ := forwardedUrl_normal forwarded
  obtain ⟨path, -, query⟩ := below.parts normal
  obtain ⟨plainPath, -, plainQuery, -⟩ := below.unchanged normal escaped
  obtain ⟨start, last, ends, -⟩ := controller.exists_last
  have inside := (prefix_of_indexOf found).length_le
  have left : suffix controller.gatewayPrefix.toList target.originalUrl = (controller.followed target).drop (index + 1) := by
    simp only [suffix, found, ProxyController.followed, List.drop_drop, Nat.add_comm]
  have whole := beforeQuery_fromQuery (controller.followed target)
  have length : (controller.followed target).length = target.originalUrl.length - controller.gatewayPrefix.toList.length :=
    List.length_drop
  rw [ends, List.length_append, List.length_singleton] at length inside
  rw [List.length_drop] at inside
  rw [forwardedUrl_eq, left] at forwarded
  generalize controller.followed target = followed at *
  rw [← whole, List.length_append] at length
  by_cases inPath : index + 1 ≤ (beforeQuery followed).length
  · have before : beforeQuery (followed.drop (index + 1)) = (beforeQuery followed).drop (index + 1) := by
      rw [← whole, List.drop_append_of_le_length inPath, beforeQuery_append, beforeQuery_of_fromQuery, List.append_nil, whole]
      exact fun member => not_mem_beforeQuery followed (List.mem_of_mem_drop member)
    rw [before] at forwarded
    cases forwarded
    exact pathname_ne_of_dropped service (fun c member => (plainPath c member).1) (Nat.succ_pos index) inPath path
  · rcases fromQuery_cases followed with absent | ⟨own, present⟩
    · rw [absent, List.length_nil] at length
      omega
    · have after : followed.drop (index + 1) = own.drop (index - (beforeQuery followed).length) := by
        have beyond : (beforeQuery followed).length + (index - (beforeQuery followed).length + 1) = index + 1 := by omega
        have dropped := @List.drop_length_add_append _ (beforeQuery followed) (fromQuery followed)
          (index - (beforeQuery followed).length + 1)
        rw [whole, beyond, present] at dropped
        exact dropped
      rw [after] at forwarded
      cases forwarded
      rw [present] at query plainQuery
      exact search_ne_of_dropped plainQuery _ query

/-- A version with another character is no dot segment either. -/
theorem plain_version {c : Char} (plain : isPathEscaped c = false ∧ c ≠ '/' ∧ c ≠ '\\') : PlainSegment (.ofList ['v', '1', c]) := by
  have each : ∀ segment ∈ dots ++ dots.flatMap (fun first => dots.map (first ++ ·)), segment.toList.head? ≠ some 'v' := by decide
  have named : (String.ofList ['v', '1', c]).toList.head? = some 'v' := by rw [String.toList_ofList, List.head?_cons]
  refine ⟨?_, fun double => ?_, fun single => ?_⟩
  · rw [String.toList_ofList]
    exact List.forall_mem_cons.mpr ⟨by decide, List.forall_mem_cons.mpr ⟨by decide, List.forall_mem_singleton.mpr plain⟩⟩
  · exact each _ (List.mem_append_right _ (of_decide_eq_true double)) named
  · exact each _ (List.mem_append_left _ (of_decide_eq_true single)) named

/-- Without the prefix the last character of what stands for it is left. -/
theorem not_below_absent (routes : controller.routes method target)
    (absent : indexOf controller.gatewayPrefix.toList target.originalUrl = none)
    (forwarded : forwardedUrl controller service target = some sent) : ¬ Below service (controller.followed target) sent := by
  intro below
  obtain ⟨normal, escaped⟩ := forwardedUrl_normal forwarded
  obtain ⟨path, rooted, query⟩ := below.parts normal
  have unchanged := below.unchanged normal escaped
  obtain ⟨lower, -, -⟩ := ProxyController.routed routes
  obtain ⟨start, last, ends, plainLast⟩ := controller.exists_last
  rw [ends] at lower
  obtain ⟨own, ending, parts, lowerOwn, lowerEnding⟩ := List.map_eq_append_iff.mp lower
  obtain ⟨c, rfl, rfl⟩ := List.map_eq_singleton_iff.mp lowerEnding
  obtain ⟨plain, notSlash, notBackslash⟩ := plain_of_toLower plainLast
  have left : suffix controller.gatewayPrefix.toList target.originalUrl = c :: controller.followed target := by
    have url : own ++ c :: controller.followed target = target.originalUrl := by
      rw [ProxyController.followed, ends, ← List.singleton_append, ← List.append_assoc, ← parts, List.take_append_drop]
    have before : own.length = controller.gatewayPrefix.toList.length - 1 := by
      rw [ends, ← lowerOwn, List.length_append, List.length_map]
      rfl
    simp only [suffix, absent, ← before]
    rw [← url, List.drop_left]
  have first : beforeQuery (c :: controller.followed target) = c :: beforeQuery (controller.followed target) := by
    refine List.takeWhile_cons_of_pos (decide_eq_true ?_)
    rintro rfl
    cases plain
  have written : joinPath service.basePath ++ c :: beforeQuery (controller.followed target) =
      joinPath (service.path ++ ["api", .ofList ['v', '1', c]] ++ segmentsOf (beforeQuery (controller.followed target))) := by
    have version : joinPath ["api", .ofList ['v', '1', c]] = "/api/v1".toList ++ [c] := by simp [joinPath]
    rw [joinPath_append, joinPath_append, joinPath_segmentsOf rooted, joinPath_basePath, version, ← List.append_assoc,
      List.append_assoc _ [c], List.singleton_append]
  have all : ∀ segment ∈ service.path ++ ["api", .ofList ['v', '1', c]] ++ segmentsOf (beforeQuery (controller.followed target)),
      PlainSegment segment := by
    refine List.forall_mem_append.mpr ⟨List.forall_mem_append.mpr ⟨fun segment own => (service.segments segment own).1, ?_⟩,
      unchanged.plain⟩
    refine List.forall_mem_cons.mpr ⟨service.basePath_plain "api" (by simp [ServiceUrl.basePath]), ?_⟩
    exact List.forall_mem_singleton.mpr (plain_version ⟨plain, notSlash, notBackslash⟩)
  rw [forwardedUrl_eq, left, first, written] at forwarded
  cases forwarded
  rw [Url.pathname, parsePath_joinPath (by simp) all, ← written] at path
  have longer := congrArg List.length path
  rw [List.length_append, List.length_append, List.length_cons] at longer
  omega

/-- A request that is sent where it should be has the prefix and is in normal form. -/
theorem spelled_of_below (routes : controller.routes method target) (forwarded : forwardedUrl controller service target = some sent)
    (below : Below service (controller.followed target) sent) :
    controller.gatewayPrefix.toList <+: target.originalUrl ∧ Unchanged (controller.followed target) := by
  obtain ⟨normal, escaped⟩ := forwardedUrl_normal forwarded
  refine ⟨?_, below.unchanged normal escaped⟩
  cases found : indexOf controller.gatewayPrefix.toList target.originalUrl with
  | none => exact absurd below (not_below_absent routes found forwarded)
  | some index =>
    cases index with
    | zero => exact prefix_of_indexOf found
    | succ index => exact absurd below (not_below_later found forwarded)

/-- Exactly which routed requests reach the service under what followed the
gateway's prefix: those that spell it as the gateway does and go on in the
normal form of a URL. -/
theorem forwards_below_iff (service : ServiceUrl) (routes : controller.routes method target) :
    (∃ sent, forwardedUrl controller service target = some sent ∧ Below service (controller.followed target) sent) ↔
      controller.gatewayPrefix.toList <+: target.originalUrl ∧ Unchanged (controller.followed target) := by
  constructor
  · rintro ⟨sent, forwarded, below⟩
    exact spelled_of_below routes forwarded below
  · rintro ⟨start, unchanged⟩
    exact below_of_prefix routes start unchanged

end forwarding

def sampleService : ServiceUrl where
  secure := false
  authority := "catalog:3001".toList
  path := []
  slash := true
  nonempty := by decide
  plain := List.all_iff_forall_prop.mp (by decide)
  segments := by simp

def listed : RequestTarget where
  originalUrl := "/api/v1/catalog/restaurants?page=2".toList
  rooted := by decide
  plain := List.all_iff_forall_prop.mp (by decide)

def shouted : RequestTarget where
  originalUrl := "/api/v1/CATALOG/restaurants".toList
  rooted := by decide
  plain := List.all_iff_forall_prop.mp (by decide)

def climbing : RequestTarget where
  originalUrl := "/api/v1/catalog/%2e%2e/..\\internal".toList
  rooted := by decide
  plain := List.all_iff_forall_prop.mp (by decide)

theorem forwards_below_of_list :
    ProxyController.catalog.routes "GET" listed ∧
      ∃ sent, forwardedUrl .catalog sampleService listed = some sent ∧ Below sampleService "/restaurants?page=2".toList sent := by
  have routes : ProxyController.catalog.routes "GET" listed := by decide +kernel
  refine ⟨routes, (forwards_below_iff sampleService routes).mpr ⟨by decide, ?_⟩⟩
  exact ⟨List.all_iff_forall_prop.mp (by decide), by decide, List.all_iff_forall_prop.mp (by decide), by decide⟩

/-- Two requests that are routed to the catalog and leave its `/api/v1`. -/
theorem internal_reached :
    (ProxyController.catalog.routes "GET" shouted ∧
      (forwardedUrl .catalog sampleService shouted).map Url.pathname = some "/api/v1G/restaurants".toList ∧
      ¬ ∃ sent, forwardedUrl .catalog sampleService shouted = some sent ∧
        Below sampleService (ProxyController.catalog.followed shouted) sent) ∧
    ProxyController.catalog.routes "GET" climbing ∧
      (forwardedUrl .catalog sampleService climbing).map Url.pathname = some "/internal".toList ∧
      ¬ ∃ sent, forwardedUrl .catalog sampleService climbing = some sent ∧
        Below sampleService (ProxyController.catalog.followed climbing) sent := by
  have shoutedRoutes : ProxyController.catalog.routes "GET" shouted := by decide +kernel
  have climbingRoutes : ProxyController.catalog.routes "GET" climbing := by decide +kernel
  refine ⟨⟨shoutedRoutes, by decide +kernel, ?_⟩, climbingRoutes, by decide +kernel, ?_⟩
  · rintro ⟨sent, forwarded, below⟩
    have start := (spelled_of_below shoutedRoutes forwarded below).1
    exact absurd start (by decide)
  · rintro ⟨sent, forwarded, below⟩
    have unchanged := (spelled_of_below climbingRoutes forwarded below).2
    exact (unchanged.segments "%2e%2e".toList (by decide)).1 (by decide)

end FoodDelivery.Gateway
