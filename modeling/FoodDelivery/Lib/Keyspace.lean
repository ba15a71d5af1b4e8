import Mathlib.Data.Finset.Card
import Mathlib.Logic.Function.Basic

/-- The hashes and the sets of a key-value server. A collection without
elements and one that does not exist are the same. -/
@[ext] structure Keyspace (K M : Type*) where
  hash : K → M → Option M
  set : K → Finset M

namespace Keyspace

variable {K M : Type*} [DecidableEq K] [DecidableEq M] (s : Keyspace K M) {key other : K}

def empty : Keyspace K M where
  hash _ _ := none
  set _ := ∅

def hget (key : K) (field : M) : Option M := s.hash key field

def hset (key : K) (field value : M) : Keyspace K M where
  hash := Function.update s.hash key (Function.update (s.hash key) field (some value))
  set := s.set

def hdel (key : K) (field : M) : Keyspace K M where
  hash := Function.update s.hash key (Function.update (s.hash key) field none)
  set := s.set

def sismember (key : K) (member : M) : Bool := member ∈ s.set key

def sadd (key : K) (member : M) : Keyspace K M where
  hash := s.hash
  set := Function.update s.set key (insert member (s.set key))

def srem (key : K) (member : M) : Keyspace K M where
  hash := s.hash
  set := Function.update s.set key ((s.set key).erase member)

def scard (key : K) : Nat := (s.set key).card

@[simp] theorem hset_set (field value : M) : (s.hset key field value).set = s.set := rfl

@[simp] theorem hdel_set (field : M) : (s.hdel key field).set = s.set := rfl

@[simp] theorem sadd_hash (member : M) : (s.sadd key member).hash = s.hash := rfl

@[simp] theorem srem_hash (member : M) : (s.srem key member).hash = s.hash := rfl

@[simp] theorem hset_hash_same (field value : M) :
    (s.hset key field value).hash key = Function.update (s.hash key) field (some value) :=
  Function.update_self ..

@[simp] theorem hset_hash_other (field value : M) (different : other ≠ key) :
    (s.hset key field value).hash other = s.hash other :=
  Function.update_of_ne different ..

@[simp] theorem hdel_hash_same (field : M) :
    (s.hdel key field).hash key = Function.update (s.hash key) field none :=
  Function.update_self ..

@[simp] theorem hdel_hash_other (field : M) (different : other ≠ key) :
    (s.hdel key field).hash other = s.hash other :=
  Function.update_of_ne different ..

@[simp] theorem sadd_set_same (member : M) : (s.sadd key member).set key = insert member (s.set key) :=
  Function.update_self ..

@[simp] theorem sadd_set_other (member : M) (different : other ≠ key) :
    (s.sadd key member).set other = s.set other :=
  Function.update_of_ne different ..

@[simp] theorem srem_set_same (member : M) : (s.srem key member).set key = (s.set key).erase member :=
  Function.update_self ..

@[simp] theorem srem_set_other (member : M) (different : other ≠ key) :
    (s.srem key member).set other = s.set other :=
  Function.update_of_ne different ..

/-- Deleting a field undoes setting it where there was none. -/
theorem hash_restored {s t : Keyspace K M} {field value : M} (absent : s.hash key field = none)
    (set : t.hash = (s.hset key field value).hash) : (t.hdel key field).hash = s.hash := by
  funext name
  by_cases same : name = key
  · subst same
    rw [hdel_hash_same, set, hset_hash_same, Function.update_idem, ← absent, Function.update_eq_self]
  · rw [hdel_hash_other _ _ same, set, hset_hash_other _ _ _ same]

end Keyspace
