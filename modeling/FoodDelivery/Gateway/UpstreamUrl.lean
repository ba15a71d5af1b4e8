import Mathlib.Data.Bool.AllAny
import FoodDelivery.Settings.Address

namespace FoodDelivery.Gateway

open Settings

/-- The characters that are escaped in the query of an http URL: controls,
blanks, everything beyond ASCII and five marks. -/
def isQueryEscaped (c : Char) : Bool := c.toNat ≤ 0x20 ∨ 0x7e < c.toNat ∨ c.toNat ∈ [0x22, 0x23, 0x27, 0x3c, 0x3e]

/-- Those that are escaped in its path. -/
def isPathEscaped (c : Char) : Bool :=
  c.toNat ≤ 0x20 ∨ 0x7e < c.toNat ∨ c.toNat ∈ [0x22, 0x23, 0x3c, 0x3e, 0x3f, 0x5e, 0x60, 0x7b, 0x7d]

def escapeChar (escaped : Char → Bool) (c : Char) : List Char :=
  if escaped c then Percent.encode (fun _ => false) (String.utf8EncodeChar c) else [c]

def escape (escaped : Char → Bool) (text : List Char) : List Char := text.flatMap (escapeChar escaped)

/-- What `fetch` asks for: an http URL without user, password and fragment. -/
structure Url where
  secure : Bool
  authority : List Char
  path : List String
  query : Option (List Char)
  deriving DecidableEq, Repr

def joinPath (segments : List String) : List Char := segments.flatMap fun segment => '/' :: segment.toList

def Url.pathname (url : Url) : List Char := joinPath url.path

/-- A question mark without a query is not sent. -/
def Url.search (url : Url) : List Char :=
  match url.query with
  | none | some [] => []
  | some query => '?' :: query

/-- A backslash separates segments as a slash does. -/
def slash (c : Char) : Char := if c = '\\' then '/' else c

/-- The path of a URL, after its first slash. -/
def parsePath (text : List Char) : List String :=
  removeDotSegments [] (((text.map slash).splitOn '/').map fun segment => String.ofList (escape isPathEscaped segment))

def beforeQuery (text : List Char) : List Char := text.takeWhile (· ≠ '?')

def fromQuery (text : List Char) : List Char := text.dropWhile (· ≠ '?')

def parseQuery : List Char → Option (List Char)
  | [] => none
  | _ :: query => some (escape isQueryEscaped query)

def endsAuthority (c : Char) : Bool := c = '/' ∨ c = '\\' ∨ c = '?'

/-- What follows the scheme: any number of slashes, the authority and the rest. -/
def parseAuthority (secure : Bool) (text : List Char) : Option Url :=
  let text := text.dropWhile fun c => slash c = '/'
  let authority := text.takeWhile fun c => ¬ endsAuthority c
  let rest := text.dropWhile fun c => ¬ endsAuthority c
  if authority = [] then none
  else some { secure, authority, path := parsePath ((beforeQuery rest).drop 1), query := parseQuery (fromQuery rest) }

def isBlank (c : Char) : Bool := c.toNat ≤ 0x20

/-- Blanks around a URL are stripped, and tabs and ends of lines inside it. -/
def strip (text : List Char) : List Char :=
  ((text.dropWhile isBlank).rdropWhile isBlank).filter fun c => ¬ (c = '\t' ∨ c = '\n' ∨ c = '\r')

def scheme (secure : Bool) : List Char := if secure then "https:".toList else "http:".toList

/-- The URL parser on an absolute URL of the schemes that `fetch` knows. -/
def parseUrl (text : List Char) : Option Url :=
  let text := (strip text).takeWhile (· ≠ '#')
  if scheme false <+: text then parseAuthority false (text.drop (scheme false).length)
  else if scheme true <+: text then parseAuthority true (text.drop (scheme true).length)
  else none

section escapes

variable {escaped : Char → Bool} {text : List Char}

theorem escape_plain (plain : ∀ c ∈ text, escaped c = false) : escape escaped text = text := by
  induction text with
  | nil => rfl
  | cons c rest ih =>
    have first := plain c (List.mem_cons_self ..)
    rw [escape, List.flatMap_cons, ← escape, ih fun d member => plain d (List.mem_cons_of_mem _ member), escapeChar, first]
    rfl

theorem mem_escape {c : Char} (member : c ∈ escape escaped text) :
    c ∈ text ∧ escaped c = false ∨ ∃ octet, c ∈ Percent.encodeByte (fun _ => false) octet := by
  obtain ⟨d, inText, inChar⟩ := List.mem_flatMap.mp member
  unfold escapeChar at inChar
  by_cases special : escaped d
  · rw [if_pos special] at inChar
    obtain ⟨octet, -, inByte⟩ := List.mem_flatMap.mp inChar
    exact Or.inr ⟨octet, inByte⟩
  · rw [if_neg special, List.mem_singleton] at inChar
    rw [inChar]
    exact Or.inl ⟨inText, Bool.eq_false_iff.mpr special⟩

/-- An escape needs none itself and separates nothing. -/
theorem encodeByte_plain {octet : UInt8} {c : Char} (member : c ∈ Percent.encodeByte (fun _ => false) octet) :
    isPathEscaped c = false ∧ isQueryEscaped c = false ∧ c ≠ '/' ∧ c ≠ '\\' := by
  have each : ∀ n < 256, ((Percent.encodeByte (fun _ => false) (.ofNat n)).all fun c =>
      !isPathEscaped c && !isQueryEscaped c && c != '/' && c != '\\') = true := by decide +kernel
  have plain := List.all_eq_true.mp (each octet.toNat octet.toNat_lt) c (by rwa [UInt8.ofNat_toNat])
  simpa [and_assoc] using plain

end escapes

section segments

/-- A segment that the URL parser leaves as it is. -/
structure PlainSegment (segment : String) : Prop where
  plain : ∀ c ∈ segment.toList, isPathEscaped c = false ∧ c ≠ '/' ∧ c ≠ '\\'
  notDouble : ¬ isDoubleDot segment
  notSingle : ¬ isSingleDot segment

theorem PlainSegment.empty : PlainSegment "" := ⟨by simp, by decide, by decide⟩

theorem joinPath_cons (first : String) (rest : List String) :
    joinPath (first :: rest) = '/' :: (first.toList ++ joinPath rest) := rfl

theorem joinPath_eq (segments : List String) : joinPath segments = ['/'].intercalate ([] :: segments.map String.toList) := by
  induction segments with
  | nil => rfl
  | cons first rest ih =>
    cases rest with
    | nil => simp [joinPath, List.intercalate]
    | cons second others =>
      rw [List.map_cons, List.intercalate_cons_cons] at ih ⊢
      rw [joinPath_cons, ih, List.map_cons, List.intercalate_cons_cons]
      simp only [List.nil_append, List.singleton_append, List.append_assoc]

theorem joinPath_append (segments more : List String) : joinPath (segments ++ more) = joinPath segments ++ joinPath more :=
  List.flatMap_append

theorem splitOn_joinPath {segments : List String} (plain : ∀ segment ∈ segments, '/' ∉ segment.toList) :
    (joinPath segments).splitOn '/' = [] :: segments.map String.toList := by
  rw [joinPath_eq]
  refine List.splitOn_intercalate '/' ?_ (List.cons_ne_nil _ _)
  intro part member
  rcases List.mem_cons.mp member with rfl | own
  · exact List.not_mem_nil
  · obtain ⟨segment, inSegments, rfl⟩ := List.mem_map.mp own
    exact plain segment inSegments

theorem joinPath_splitOn (text : List Char) : joinPath ((text.splitOn '/').map String.ofList) = '/' :: text := by
  have whole : (text.splitOn '/').map (String.toList ∘ String.ofList) = text.splitOn '/' :=
    List.map_id'' (fun part => String.toList_ofList) _
  obtain ⟨first, rest, parts⟩ := List.exists_cons_of_ne_nil (List.splitOn_ne_nil '/' text)
  rw [joinPath_eq, List.map_map, whole, parts, List.intercalate_cons_cons, ← parts, List.intercalate_splitOn]
  rfl

theorem mem_of_mem_splitOn {text part : List Char} {c : Char} (inParts : part ∈ text.splitOn '/') (inPart : c ∈ part) : c ∈ text := by
  have joined : c ∈ joinPath ((text.splitOn '/').map String.ofList) := by
    refine List.mem_flatMap.mpr ⟨String.ofList part, List.mem_map_of_mem inParts, List.mem_cons_of_mem _ ?_⟩
    rwa [String.toList_ofList]
  rw [joinPath_splitOn] at joined
  refine (List.mem_cons.mp joined).resolve_left ?_
  rintro rfl
  exact Delimited.not_mem_of_mem_splitOn inParts inPart

/-- The segments of a path that is empty or begins with a slash. -/
def segmentsOf (text : List Char) : List String := (text.splitOn '/').tail.map String.ofList

theorem joinPath_segmentsOf {text : List Char} (rooted : text = [] ∨ text.head? = some '/') : joinPath (segmentsOf text) = text := by
  rcases rooted with rfl | first
  · rfl
  · obtain ⟨rest, rfl⟩ := List.head?_eq_some_iff.mp first
    rw [segmentsOf, List.splitOn_cons_eq_if_modifyHead, if_pos (beq_self_eq_true _)]
    exact joinPath_splitOn rest

end segments

section paths

theorem slash_ne_of_mem {text : List Char} {c : Char} (member : c ∈ text.map slash) : c ≠ '\\' := by
  obtain ⟨d, -, rfl⟩ := List.mem_map.mp member
  unfold slash
  split
  · decide
  · assumption

theorem isPathEscaped_slash {c : Char} (plain : isPathEscaped c = false) : isPathEscaped (slash c) = false := by
  unfold slash
  split
  · decide
  · exact plain

theorem parsePath_plain (text : List Char) : ∀ segment ∈ parsePath text, PlainSegment segment := by
  intro segment member
  rcases mem_removeDotSegments member with kept | rfl | ⟨written, notDouble, notSingle⟩
  · cases kept
  · exact PlainSegment.empty
  · obtain ⟨part, inParts, rfl⟩ := List.mem_map.mp written
    refine ⟨fun c inSegment => ?_, notDouble, notSingle⟩
    rw [String.toList_ofList] at inSegment
    rcases mem_escape inSegment with ⟨inPart, plain⟩ | ⟨octet, inByte⟩
    · refine ⟨plain, ?_, ?_⟩
      · rintro rfl
        exact Delimited.not_mem_of_mem_splitOn inParts inPart
      · exact slash_ne_of_mem (mem_of_mem_splitOn inParts inPart)
    · obtain ⟨path, -, rest⟩ := encodeByte_plain inByte
      exact ⟨path, rest⟩

/-- Without characters to escape only the dot segments of a path go. -/
theorem parsePath_eq {text : List Char} (plain : ∀ c ∈ text, isPathEscaped c = false) :
    parsePath text = removeDotSegments [] (((text.map slash).splitOn '/').map String.ofList) := by
  have parts : ((text.map slash).splitOn '/').map (fun segment => String.ofList (escape isPathEscaped segment)) =
      ((text.map slash).splitOn '/').map String.ofList := by
    refine List.map_congr_left fun part inParts => ?_
    rw [escape_plain]
    intro c inPart
    obtain ⟨d, inText, rfl⟩ := List.mem_map.mp (mem_of_mem_splitOn inParts inPart)
    exact isPathEscaped_slash (plain d inText)
  rw [parsePath, parts]

theorem length_joinPath (segments : List String) :
    (joinPath segments).length = (segments.map fun segment => segment.toList.length + 1).sum := List.length_flatMap

theorem length_parsePath_le {text : List Char} (plain : ∀ c ∈ text, isPathEscaped c = false) :
    (joinPath (parsePath text)).length ≤ text.length + 1 := by
  have shorter := @sum_removeDotSegments_le (fun segment => segment.toList.length + 1) (fun s => Nat.le_add_left ..) []
    (((text.map slash).splitOn '/').map String.ofList)
  rw [← parsePath_eq plain, ← length_joinPath, ← length_joinPath, ← length_joinPath, joinPath_splitOn, List.length_cons,
    List.length_map] at shorter
  simpa [joinPath] using shorter

theorem joinPath_plain {segments : List String} (plain : ∀ segment ∈ segments, PlainSegment segment) {c : Char}
    (member : c ∈ joinPath segments) : isPathEscaped c = false ∧ c ≠ '\\' := by
  obtain ⟨segment, inSegments, inPart⟩ := List.mem_flatMap.mp member
  rcases List.mem_cons.mp inPart with rfl | inSegment
  · decide
  · obtain ⟨path, -, other⟩ := (plain segment inSegments).plain c inSegment
    exact ⟨path, other⟩

/-- A path that needs no change is what it is parsed to. -/
theorem parsePath_joinPath {segments : List String} (nonempty : segments ≠ []) (plain : ∀ segment ∈ segments, PlainSegment segment) :
    parsePath ((joinPath segments).drop 1) = segments := by
  obtain ⟨first, rest, rfl⟩ := List.exists_cons_of_ne_nil nonempty
  have all : ∀ c ∈ first.toList ++ joinPath rest, isPathEscaped c = false ∧ c ≠ '\\' :=
    fun c member => joinPath_plain plain (List.mem_cons_of_mem _ member)
  have same : (first.toList ++ joinPath rest).map slash = first.toList ++ joinPath rest :=
    (List.map_congr_left fun c member => if_neg (all c member).2).trans (List.map_id _)
  have split := splitOn_joinPath fun segment member separator => ((plain segment member).plain '/' separator).2.1 rfl
  rw [joinPath_cons, List.splitOn_cons_eq_if_modifyHead, if_pos (beq_self_eq_true _)] at split
  have parts : (first.toList ++ joinPath rest).splitOn '/' = (first :: rest).map String.toList := (List.cons.inj split).2
  rw [joinPath_cons, List.drop_one, List.tail_cons, parsePath_eq fun c member => (all c member).1, same, parts, List.map_map]
  have texts : (first :: rest).map (String.ofList ∘ String.toList) = first :: rest := List.map_id'' (fun s => String.ofList_toList) _
  rw [texts, removeDotSegments_plain fun s member => ⟨(plain s member).notDouble, (plain s member).notSingle⟩]
  rfl

end paths

section queries

variable {text before after : List Char}

theorem beforeQuery_append (plain : '?' ∉ before) : beforeQuery (before ++ after) = before ++ beforeQuery after :=
  List.takeWhile_append_of_pos fun _ member => decide_eq_true fun same => plain (same ▸ member)

theorem fromQuery_append (plain : '?' ∉ before) : fromQuery (before ++ after) = fromQuery after :=
  List.dropWhile_append_of_pos fun _ member => decide_eq_true fun same => plain (same ▸ member)

theorem beforeQuery_fromQuery (text : List Char) : beforeQuery text ++ fromQuery text = text := List.takeWhile_append_dropWhile

theorem not_mem_beforeQuery (text : List Char) : '?' ∉ beforeQuery text := by
  intro member
  have other := List.mem_takeWhile_imp member
  simp at other

/-- A query begins with its question mark. -/
theorem fromQuery_cases (text : List Char) : fromQuery text = [] ∨ ∃ query, fromQuery text = '?' :: query := by
  cases shape : fromQuery text with
  | nil => exact Or.inl rfl
  | cons c query =>
    have head := List.head?_dropWhile_not (fun c => decide (c ≠ '?')) text
    rw [fromQuery] at shape
    rw [shape] at head
    simp at head
    exact Or.inr ⟨query, by rw [head]⟩

theorem search_parseQuery_plain {secure : Bool} {authority : List Char} {path : List String} (asked : fromQuery text ≠ ['?'])
    (plain : ∀ c ∈ (fromQuery text).drop 1, isQueryEscaped c = false) :
    Url.search { secure, authority, path, query := parseQuery (fromQuery text) } = fromQuery text := by
  rcases fromQuery_cases text with absent | ⟨query, present⟩
  · rw [absent]
    rfl
  · rw [present] at plain asked ⊢
    have same : escape isQueryEscaped query = query := escape_plain plain
    cases query with
    | nil => exact absurd rfl asked
    | cons c rest => simp only [Url.search, parseQuery, same]

end queries

section urls

/-- Characters that are neither blanks nor the start of a fragment. -/
def isVisible (c : Char) : Bool := ¬ isBlank c ∧ c ≠ '#'

theorem strip_visible {text : List Char} (visible : ∀ c ∈ text, isVisible c) : strip text = text := by
  have dark : ∀ c ∈ text, ¬ isBlank c := fun c member => (of_decide_eq_true (visible c member)).1
  have head : text.dropWhile isBlank = text :=
    List.dropWhile_eq_self_iff.mpr fun nonempty => dark _ (List.getElem_mem nonempty)
  have last : text.rdropWhile isBlank = text :=
    List.rdropWhile_eq_self_iff.mpr fun nonempty => dark _ (List.getLast_mem nonempty)
  rw [strip, head, last, List.filter_eq_self]
  intro c member
  rw [decide_eq_true_eq]
  rintro (rfl | rfl | rfl) <;> exact dark _ member (by decide)

theorem parseAuthority_eq {authority : List Char} (secure : Bool) (nonempty : authority ≠ [])
    (plain : ∀ c ∈ authority, ¬ endsAuthority c) (rest : List Char) :
    parseAuthority secure ('/' :: '/' :: (authority ++ '/' :: rest)) =
      some { secure, authority, path := parsePath (beforeQuery rest), query := parseQuery (fromQuery rest) } := by
  obtain ⟨first, others, rfl⟩ := List.exists_cons_of_ne_nil nonempty
  have start : ('/' :: '/' :: (first :: others ++ '/' :: rest)).dropWhile (fun c => slash c = '/') =
      first :: others ++ '/' :: rest := by
    have notSlash : ¬ slash first = '/' := by
      have ends := plain first (List.mem_cons_self ..)
      unfold slash
      intro same
      refine ends (decide_eq_true ?_)
      split at same
      · next backslash => exact Or.inr (Or.inl backslash)
      · exact Or.inl same
    rw [List.dropWhile_cons_of_pos (by decide), List.dropWhile_cons_of_pos (by decide)]
    exact List.dropWhile_cons_of_neg (by rwa [decide_eq_true_eq])
  have inAuthority : ∀ c ∈ first :: others, decide (¬ endsAuthority c) = true := fun c member => decide_eq_true (plain c member)
  have named : (first :: others ++ '/' :: rest).takeWhile (fun c => ¬ endsAuthority c) = first :: others := by
    rw [List.takeWhile_append_of_pos inAuthority, List.takeWhile_cons_of_neg (by decide), List.append_nil]
  have after : (first :: others ++ '/' :: rest).dropWhile (fun c => ¬ endsAuthority c) = '/' :: rest := by
    rw [List.dropWhile_append_of_pos inAuthority, List.dropWhile_cons_of_neg (by decide)]
  have path : beforeQuery ('/' :: rest) = '/' :: beforeQuery rest := List.takeWhile_cons_of_pos (by decide)
  have query : fromQuery ('/' :: rest) = fromQuery rest := List.dropWhile_cons_of_pos (by decide)
  simp only [parseAuthority, start, named, after, path, query]
  rw [if_neg nonempty]
  rfl

theorem parseUrl_eq {authority rest : List Char} (secure : Bool) (nonempty : authority ≠ [])
    (plain : ∀ c ∈ authority, isVisible c ∧ ¬ endsAuthority c) (visible : ∀ c ∈ rest, isVisible c) :
    parseUrl (scheme secure ++ '/' :: '/' :: (authority ++ '/' :: rest)) =
      some { secure, authority, path := parsePath (beforeQuery rest), query := parseQuery (fromQuery rest) } := by
  have schemes : ∀ c ∈ scheme secure, isVisible c := by
    cases secure <;> exact List.all_iff_forall_prop.mp (by decide)
  have all : ∀ c ∈ scheme secure ++ '/' :: '/' :: (authority ++ '/' :: rest), isVisible c := by
    simp only [List.forall_mem_append, List.forall_mem_cons]
    exact ⟨schemes, by decide, by decide, fun c member => (plain c member).1, by decide, visible⟩
  have whole : (scheme secure ++ '/' :: '/' :: (authority ++ '/' :: rest)).takeWhile (· ≠ '#') =
      scheme secure ++ '/' :: '/' :: (authority ++ '/' :: rest) :=
    List.takeWhile_eq_self_iff.mpr fun c member => decide_eq_true (of_decide_eq_true (all c member)).2
  simp only [parseUrl, strip_visible all, whole]
  have authorityOnly := fun c member => (plain c member).2
  cases secure with
  | false =>
    rw [if_pos (List.prefix_append ..), List.drop_left]
    exact parseAuthority_eq false nonempty authorityOnly rest
  | true =>
    rw [if_neg, if_pos (List.prefix_append ..), List.drop_left]
    · exact parseAuthority_eq true nonempty authorityOnly rest
    · rintro ⟨tail, same⟩
      simp [scheme] at same

end urls

end FoodDelivery.Gateway
