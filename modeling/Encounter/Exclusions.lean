import Encounter.World.Clock
import Encounter.World.Identity

/-!
# Exclusions

An exclusion set holds identities, each until a clock reading of its own.  An identity is excluded
at a reading when its entry expires strictly later.  Adding an entry first drops every entry that
has expired by then, and nothing brings a dropped entry back: were the clock to run backward, a
reading before the expiry would no longer find it.
-/

namespace Encounter

structure Exclusions where
  entries : List (Guid × Timestamp)
  nodup_keys : (entries.map Prod.fst).Nodup

namespace Exclusions

def empty : Exclusions where
  entries := []
  nodup_keys := List.nodup_nil

instance : Inhabited Exclusions := ⟨empty⟩

def expiry? (s : Exclusions) (guid : Guid) : Option Timestamp :=
  (s.entries.find? (·.1 == guid)).map Prod.snd

def contains (s : Exclusions) (guid : Guid) (now : Timestamp) : Bool :=
  (s.expiry? guid).any (now < ·)

def liveCount (s : Exclusions) (now : Timestamp) : Nat :=
  s.entries.countP (now < ·.2)

def isEmptyAt (s : Exclusions) (now : Timestamp) : Bool :=
  s.liveCount now == 0

theorem nodup_keys_filter {entries : List (Guid × Timestamp)}
    (h : (entries.map Prod.fst).Nodup) (p : Guid × Timestamp → Bool) :
    ((entries.filter p).map Prod.fst).Nodup :=
  h.sublist (List.filter_sublist.map _)

def prune (s : Exclusions) (now : Timestamp) : Exclusions where
  entries := s.entries.filter (now < ·.2)
  nodup_keys := nodup_keys_filter s.nodup_keys _

def insert (s : Exclusions) (guid : Guid) (expiry : Timestamp) : Exclusions where
  entries := (guid, expiry) :: s.entries.filter (·.1 != guid)
  nodup_keys := by
    rw [List.map_cons, List.nodup_cons]
    exact ⟨by simp, nodup_keys_filter s.nodup_keys _⟩

def add (s : Exclusions) (guid : Guid) (span : Span) (now : Timestamp) :
    Timestamp × Exclusions :=
  (now.after span, (s.prune now).insert guid (now.after span))

def flush (_ : Exclusions) : Exclusions :=
  empty

/-- How long the task excludes a creature for: five minutes. -/
def lifetime : Span where
  seconds := 300
  nanos := 0

@[simp]
theorem expiry?_empty (guid : Guid) : empty.expiry? guid = none :=
  rfl

theorem expiry?_insert (s : Exclusions) (guid other : Guid) (expiry : Timestamp) :
    (s.insert guid expiry).expiry? other =
      if other = guid then some expiry else s.expiry? other := by
  by_cases h : other = guid
  · subst h
    simp [expiry?, insert]
  · have hne : guid ≠ other := Ne.symm h
    simp only [expiry?, insert, List.find?_cons, beq_eq_false_iff_ne.mpr hne, if_neg h]
    rw [List.find?_filter]
    congr 1
    apply congrArg (List.find? · s.entries)
    funext entry
    by_cases he : entry.1 = other
    · simp [he, h]
    · simp [he]

end Exclusions

end Encounter
