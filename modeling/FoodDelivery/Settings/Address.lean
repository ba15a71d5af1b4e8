import Mathlib.Algebra.Ring.Nat
import FoodDelivery.Lib.Delimited
import FoodDelivery.Lib.Percent

namespace FoodDelivery.Settings

/-- What `encodeURIComponent` leaves as it is: letters, digits and nine marks. -/
def isUnreserved (octet : UInt8) : Bool :=
  octet.toNat < 128 ∧ ((Char.ofNat octet.toNat).isAlphanum ∨
    octet.toNat ∈ [0x2d, 0x5f, 0x2e, 0x21, 0x7e, 0x2a, 0x27, 0x28, 0x29])

def encodeURIComponent (text : String) : String := .ofList (Percent.encode isUnreserved text.toUTF8.data.toList)

/-- Nothing where the bytes do not decode. -/
def decodeURIComponent (text : String) : Option String :=
  (Percent.decode text.toList).bind fun bytes => String.fromUTF8? ⟨bytes.toArray⟩

def dots : List String := [".", "%2e", "%2E"]

def isSingleDot (segment : String) : Bool := segment ∈ dots

def isDoubleDot (segment : String) : Bool := segment ∈ dots.flatMap fun first => dots.map (first ++ ·)

/-- The segments of a path once the dot segments have been resolved, as a URL
is parsed; the kept ones come last first. -/
def removeDotSegments (kept : List String) : List String → List String
  | [] => kept.reverse
  | [last] =>
    if isDoubleDot last then ("" :: kept.tail).reverse
    else if isSingleDot last then ("" :: kept).reverse
    else (last :: kept).reverse
  | segment :: rest =>
    if isDoubleDot segment then removeDotSegments kept.tail rest
    else if isSingleDot segment then removeDotSegments kept rest
    else removeDotSegments (segment :: kept) rest

/-- Where the config service is reached; its URL may end in a slash. -/
structure ConfigServiceUrl where
  origin : String
  plain : origin.toList.getLast? ≠ some '/'
  slash : Bool

def ConfigServiceUrl.text (url : ConfigServiceUrl) : String := if url.slash then url.origin ++ "/" else url.origin

/-- `replace(/\/$/, '')`. -/
def stripSlash (text : String) : String :=
  if text.toList.getLast? = some '/' then .ofList text.toList.dropLast else text

def baseUrl (url : ConfigServiceUrl) : String := stripSlash url.text ++ "/api/v1"

/-- The segments of the path that a request for a URL of the service asks for,
without a query or a fragment. -/
def requestSegments (url : ConfigServiceUrl) (text : String) : Option (List String) :=
  if url.origin.toList <+: text.toList then
    match ((text.toList.drop url.origin.toList.length).takeWhile fun c => c ≠ '?' ∧ c ≠ '#').splitOn '/' with
    | [] :: segments => some (removeDotSegments [] (segments.map String.ofList))
    | _ => none
  else none

/-- The GET routes of the config controller. -/
inductive Route
  | findAll
  | findFlag (key : String)
  | findOne (key : String)
  deriving DecidableEq, Repr

def sameLetters (segment literal : String) : Bool := segment.toList.map Char.toLower = literal.toList

/-- Paths match whatever the case of their letters and with a slash at the end
or without; a parameter is never empty. -/
def matchRoute (segments : List String) : Option Route :=
  match if segments.getLast? = some "" then segments.dropLast else segments with
  | [api, version, config] =>
    if sameLetters api "api" ∧ sameLetters version "v1" ∧ sameLetters config "config" then some .findAll else none
  | [api, version, config, key] =>
    if sameLetters api "api" ∧ sameLetters version "v1" ∧ sameLetters config "config" ∧ key ≠ "" then some (.findOne key)
    else none
  | [api, version, config, flags, key] =>
    if sameLetters api "api" ∧ sameLetters version "v1" ∧ sameLetters config "config" ∧ sameLetters flags "flags" ∧ key ≠ "" then
      some (.findFlag key)
    else none
  | _ => none

def requestRoute (url : ConfigServiceUrl) (text : String) : Option Route := (requestSegments url text).bind matchRoute

theorem removeDotSegments_plain {kept segments : List String} (plain : ∀ s ∈ segments, ¬ isDoubleDot s ∧ ¬ isSingleDot s) :
    removeDotSegments kept segments = kept.reverse ++ segments := by
  fun_induction removeDotSegments kept segments with
  | case1 kept => exact (List.append_nil _).symm
  | case2 kept last double => exact absurd double (plain last (List.mem_singleton_self _)).1
  | case3 kept last _ single => exact absurd single (plain last (List.mem_singleton_self _)).2
  | case4 kept last => exact List.reverse_cons
  | case5 kept segment rest _ double => exact absurd double (plain segment (List.mem_cons_self ..)).1
  | case6 kept segment rest _ _ single => exact absurd single (plain segment (List.mem_cons_self ..)).2
  | case7 kept segment rest _ _ _ ih =>
    rw [ih fun s member => plain s (List.mem_cons_of_mem _ member), List.reverse_cons, List.append_assoc, List.singleton_append]

/-- What is left of a path are its segments that are no dots, and empty ones. -/
theorem mem_removeDotSegments {kept segments : List String} {s : String} (member : s ∈ removeDotSegments kept segments) :
    s ∈ kept ∨ s = "" ∨ s ∈ segments ∧ ¬ isDoubleDot s ∧ ¬ isSingleDot s := by
  fun_induction removeDotSegments kept segments with
  | case1 kept => exact Or.inl (List.mem_reverse.mp member)
  | case2 kept last double =>
    rcases List.mem_cons.mp (List.mem_reverse.mp member) with empty | earlier
    · exact Or.inr (Or.inl empty)
    · exact Or.inl (List.mem_of_mem_tail earlier)
  | case3 kept last _ single =>
    rcases List.mem_cons.mp (List.mem_reverse.mp member) with empty | earlier
    · exact Or.inr (Or.inl empty)
    · exact Or.inl earlier
  | case4 kept last notDouble notSingle =>
    rcases List.mem_cons.mp (List.mem_reverse.mp member) with rfl | earlier
    · exact Or.inr (Or.inr ⟨List.mem_singleton_self _, notDouble, notSingle⟩)
    · exact Or.inl earlier
  | case5 kept segment rest _ double ih =>
    rcases ih member with earlier | empty | ⟨later, plain⟩
    · exact Or.inl (List.mem_of_mem_tail earlier)
    · exact Or.inr (Or.inl empty)
    · exact Or.inr (Or.inr ⟨List.mem_cons_of_mem _ later, plain⟩)
  | case6 kept segment rest _ _ single ih =>
    rcases ih member with earlier | empty | ⟨later, plain⟩
    · exact Or.inl earlier
    · exact Or.inr (Or.inl empty)
    · exact Or.inr (Or.inr ⟨List.mem_cons_of_mem _ later, plain⟩)
  | case7 kept segment rest _ notDouble notSingle ih =>
    rcases ih member with earlier | empty | ⟨later, plain⟩
    · rcases List.mem_cons.mp earlier with rfl | earlier
      · exact Or.inr (Or.inr ⟨List.mem_cons_self .., notDouble, notSingle⟩)
      · exact Or.inl earlier
    · exact Or.inr (Or.inl empty)
    · exact Or.inr (Or.inr ⟨List.mem_cons_of_mem _ later, plain⟩)

theorem sum_tail_le (weight : String → Nat) (kept : List String) : (kept.tail.map weight).sum ≤ (kept.map weight).sum := by
  cases kept with
  | nil => exact le_rfl
  | cons first rest => exact Nat.le_add_left ..

/-- Dots only make a path shorter. -/
theorem sum_removeDotSegments_le {weight : String → Nat} (least : ∀ s, weight "" ≤ weight s) (kept segments : List String) :
    ((removeDotSegments kept segments).map weight).sum ≤ (kept.map weight).sum + (segments.map weight).sum := by
  fun_induction removeDotSegments kept segments with
  | case1 kept => simp
  | case2 kept last double =>
    have shorter := sum_tail_le weight kept
    have bound := least last
    simp only [List.map_reverse, List.sum_reverse, List.map_cons, List.sum_cons, List.map_nil, List.sum_nil]
    omega
  | case3 kept last _ single =>
    have bound := least last
    simp only [List.map_reverse, List.sum_reverse, List.map_cons, List.sum_cons, List.map_nil, List.sum_nil]
    omega
  | case4 kept last =>
    simp only [List.map_reverse, List.sum_reverse, List.map_cons, List.sum_cons, List.map_nil, List.sum_nil]
    omega
  | case5 kept segment rest _ double ih =>
    have shorter := sum_tail_le weight kept
    simp only [List.map_cons, List.sum_cons]
    omega
  | case6 kept segment rest _ _ single ih =>
    simp only [List.map_cons, List.sum_cons]
    omega
  | case7 kept segment rest _ _ _ ih =>
    simp only [List.map_cons, List.sum_cons] at ih ⊢
    omega

theorem unreserved_kept : Percent.Kept isUnreserved := by
  have each : ∀ n < 256, isUnreserved (.ofNat n) → String.utf8EncodeChar (.ofNat (UInt8.ofNat n).toNat) = [.ofNat n] ∧
      Char.ofNat (UInt8.ofNat n).toNat ≠ '%' := by decide +kernel
  intro octet keeps
  have same := each octet.toNat octet.toNat_lt
  rw [UInt8.ofNat_toNat] at same
  exact same keeps

theorem decodeURIComponent_encodeURIComponent (text : String) : decodeURIComponent (encodeURIComponent text) = some text := by
  rw [decodeURIComponent, encodeURIComponent, String.toList_ofList, Percent.decode_encode unreserved_kept]
  exact dif_pos text.isValidUTF8

theorem encodeURIComponent_injective {text other : String} (same : encodeURIComponent text = encodeURIComponent other) :
    text = other := by
  have decoded := congrArg decodeURIComponent same
  rw [decodeURIComponent_encodeURIComponent, decodeURIComponent_encodeURIComponent] at decoded
  exact Option.some.inj decoded

theorem all_plain {characters : List Char} (all : characters.all (fun c => c ≠ '/' ∧ c ≠ '?' ∧ c ≠ '#') = true) :
    ∀ c ∈ characters, c ≠ '/' ∧ c ≠ '?' ∧ c ≠ '#' :=
  fun c member => of_decide_eq_true (List.all_eq_true.mp all c member)

/-- An encoded key is one segment of a path, without a query or a fragment. -/
theorem encodeURIComponent_plain (text : String) :
    ∀ c ∈ (encodeURIComponent text).toList, c ≠ '/' ∧ c ≠ '?' ∧ c ≠ '#' := by
  have each : ∀ n < 256, (Percent.encodeByte isUnreserved (.ofNat n)).all
      (fun c => c ≠ '/' ∧ c ≠ '?' ∧ c ≠ '#') = true := by decide +kernel
  rw [encodeURIComponent, String.toList_ofList]
  refine Percent.forall_mem_encode (fun octet => ?_) _
  have plain := each octet.toNat octet.toNat_lt
  rw [UInt8.ofNat_toNat] at plain
  exact all_plain plain

theorem decode_dot {segment : String} (dot : isSingleDot segment) : decodeURIComponent segment = some "." := by
  have each : ∀ segment ∈ dots, decodeURIComponent segment = some "." := by decide +kernel
  exact each segment (of_decide_eq_true dot)

theorem decode_dots {segment : String} (dot : isDoubleDot segment) : decodeURIComponent segment = some ".." := by
  have each : ∀ segment ∈ dots.flatMap fun first => dots.map (first ++ ·), decodeURIComponent segment = some ".." := by
    decide +kernel
  exact each segment (of_decide_eq_true dot)

/-- No key but a dot is encoded to a dot segment. -/
theorem isSingleDot_encode {key : String} : isSingleDot (encodeURIComponent key) = true ↔ key = "." := by
  constructor
  · intro dot
    exact Option.some.inj ((decodeURIComponent_encodeURIComponent key).symm.trans (decode_dot dot))
  · rintro rfl
    decide +kernel

theorem isDoubleDot_encode {key : String} : isDoubleDot (encodeURIComponent key) = true ↔ key = ".." := by
  constructor
  · intro dot
    exact Option.some.inj ((decodeURIComponent_encodeURIComponent key).symm.trans (decode_dots dot))
  · rintro rfl
    decide +kernel

theorem encodeURIComponent_ne_empty {key : String} (named : key ≠ "") : encodeURIComponent key ≠ "" := by
  intro empty
  exact named (encodeURIComponent_injective (empty.trans (by decide +kernel : "" = encodeURIComponent "")))

theorem stripSlash_text (url : ConfigServiceUrl) : stripSlash url.text = url.origin := by
  unfold ConfigServiceUrl.text stripSlash
  split
  · rw [String.toList_append, show "/".toList = ['/'] from rfl, List.getLast?_concat, if_pos rfl, List.dropLast_concat,
      String.ofList_toList]
  · rw [if_neg url.plain]

/-- Segments without a slash, a query or a fragment are what a URL asks for. -/
theorem requestSegments_eq {url : ConfigServiceUrl} {segments : List String} {text : String}
    (plain : ∀ segment ∈ segments, ∀ c ∈ segment.toList, c ≠ '/' ∧ c ≠ '?' ∧ c ≠ '#')
    (written : text.toList = url.origin.toList ++ ['/'].intercalate ([] :: segments.map String.toList)) :
    requestSegments url text = some (removeDotSegments [] segments) := by
  have all : ∀ c ∈ ['/'].intercalate ([] :: segments.map String.toList), decide (c ≠ '?' ∧ c ≠ '#') = true := by
    intro c member
    rcases Delimited.mem_intercalate member with rfl | ⟨part, inParts, inPart⟩
    · decide
    · rcases List.mem_cons.mp inParts with rfl | own
      · cases inPart
      · obtain ⟨segment, inSegments, rfl⟩ := List.mem_map.mp own
        exact decide_eq_true (plain segment inSegments c inPart).2
  have whole := List.takeWhile_eq_self_iff.mpr all
  have split : (['/'].intercalate ([] :: segments.map String.toList)).splitOn '/' = [] :: segments.map String.toList := by
    refine List.splitOn_intercalate '/' ?_ (List.cons_ne_nil _ _)
    intro part member separator
    rcases List.mem_cons.mp member with rfl | own
    · cases separator
    · obtain ⟨segment, inSegments, rfl⟩ := List.mem_map.mp own
      exact (plain segment inSegments '/' separator).1 rfl
  have texts : (segments.map String.toList).map String.ofList = segments := by
    rw [List.map_map]
    exact List.map_id'' (fun segment => String.ofList_toList) segments
  rw [requestSegments, written, if_pos (List.prefix_append ..), List.drop_left, whole, split]
  exact congrArg (fun parts => some (removeDotSegments [] parts)) texts

def valueUrl (url : ConfigServiceUrl) (key : String) : String := baseUrl url ++ "/config/" ++ encodeURIComponent key

def flagUrl (url : ConfigServiceUrl) (key : String) : String := baseUrl url ++ "/config/flags/" ++ encodeURIComponent key

theorem valueUrl_segments (url : ConfigServiceUrl) (key : String) : requestSegments url (valueUrl url key) =
    some (removeDotSegments [] ["api", "v1", "config", encodeURIComponent key]) := by
  refine requestSegments_eq ?_ ?_
  · simp only [List.forall_mem_cons]
    exact ⟨all_plain (by decide), all_plain (by decide), all_plain (by decide), encodeURIComponent_plain key, by simp⟩
  · simp [valueUrl, baseUrl, stripSlash_text, List.intercalate]

theorem flagUrl_segments (url : ConfigServiceUrl) (key : String) : requestSegments url (flagUrl url key) =
    some (removeDotSegments [] ["api", "v1", "config", "flags", encodeURIComponent key]) := by
  refine requestSegments_eq ?_ ?_
  · simp only [List.forall_mem_cons]
    exact ⟨all_plain (by decide), all_plain (by decide), all_plain (by decide), all_plain (by decide),
      encodeURIComponent_plain key, by simp⟩
  · simp [flagUrl, baseUrl, stripSlash_text, List.intercalate]

/-- The segments before the key are no dot segments. -/
theorem removeDotSegments_config (rest : List String) (nonempty : rest ≠ []) :
    removeDotSegments [] ("api" :: "v1" :: "config" :: rest) = removeDotSegments ["config", "v1", "api"] rest := by
  obtain ⟨last, others, rfl⟩ := List.exists_cons_of_ne_nil nonempty
  rfl

theorem removeDotSegments_last (kept : List String) (key : String) :
    removeDotSegments kept [encodeURIComponent key] =
      if key = ".." then ("" :: kept.tail).reverse
      else if key = "." then ("" :: kept).reverse
      else (encodeURIComponent key :: kept).reverse := by
  simp only [removeDotSegments, isDoubleDot_encode, isSingleDot_encode]

/-- What the URL of a value addresses: every key but the two dot segments
addresses itself. -/
theorem requestRoute_valueUrl (url : ConfigServiceUrl) {key : String} (named : key ≠ "") :
    requestRoute url (valueUrl url key) =
      if key = ".." then none
      else if key = "." then some .findAll
      else some (.findOne (encodeURIComponent key)) := by
  rw [requestRoute, valueUrl_segments, Option.bind_some, removeDotSegments_config _ (List.cons_ne_nil _ _),
    removeDotSegments_last]
  split
  · rfl
  · split
    · rfl
    · have last := encodeURIComponent_ne_empty named
      have literals : sameLetters "api" "api" ∧ sameLetters "v1" "v1" ∧ sameLetters "config" "config" := by decide
      simpa [matchRoute, last] using literals

theorem requestRoute_flagUrl (url : ConfigServiceUrl) {key : String} (named : key ≠ "") :
    requestRoute url (flagUrl url key) =
      if key = ".." then some .findAll
      else if key = "." then some (.findOne "flags")
      else some (.findFlag (encodeURIComponent key)) := by
  have flags : removeDotSegments ["config", "v1", "api"] ("flags" :: [encodeURIComponent key]) =
      removeDotSegments ["flags", "config", "v1", "api"] [encodeURIComponent key] := rfl
  rw [requestRoute, flagUrl_segments, Option.bind_some, removeDotSegments_config _ (List.cons_ne_nil _ _), flags,
    removeDotSegments_last]
  split
  · rfl
  · split
    · rfl
    · have last := encodeURIComponent_ne_empty named
      have literals : sameLetters "api" "api" ∧ sameLetters "v1" "v1" ∧ sameLetters "config" "config" ∧
          sameLetters "flags" "flags" := by decide
      simpa [matchRoute, last] using literals

end FoodDelivery.Settings
