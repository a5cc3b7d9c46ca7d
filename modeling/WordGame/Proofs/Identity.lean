import Mathlib.Data.List.Nodup
import WordGame.Connection.Request
import WordGame.Identity

/-!
The numbers of guests and of accounts. Guests are numbered one after the other from the base on, so
no two of them share a number. The number of an account is taken as the request has it: below the
base it is nobody else's, above it may be the number of a guest.
-/

namespace WordGame

def guestIds (identities : List Identity) : List PlayerId :=
  (identities.filter (·.guest)).map (·.id)

def accountIds (identities : List Identity) : List PlayerId :=
  (identities.filter (!·.guest)).map (·.id)

def guestCount (requests : List (UpgradeRequest × String)) : Nat :=
  requests.countP (·.1.account.isNone)

/-- How many guests can be numbered before the counter comes round. -/
def maxGuests : Nat := UInt64.size - guestBase.toNat

namespace Guests

/-- The identities of one request after the other, each with the name that is invented for it should
it need one. -/
def resolveAll (guests : Guests) : List (UpgradeRequest × String) → List Identity
  | [] => []
  | (request, invented) :: rest =>
    let resolved := guests.resolve request.account request.name invented
    resolved.1 :: resolved.2.resolveAll rest

variable {guests : Guests} {requests : List (UpgradeRequest × String)}

theorem accountIds_resolveAll (guests : Guests) (requests : List (UpgradeRequest × String)) :
    accountIds (guests.resolveAll requests) = requests.filterMap (·.1.account) := by
  induction requests generalizing guests with
  | nil => rfl
  | cons first rest ih =>
    obtain ⟨⟨account, name⟩, invented⟩ := first
    cases account with
    | none => exact ih ⟨guests.next + 1⟩
    | some id => exact congrArg (id :: ·) (ih guests)

/-- Guests get the numbers from the next one on, in the order of their requests. -/
theorem guestIds_resolveAll (guests : Guests) (requests : List (UpgradeRequest × String)) :
    guestIds (guests.resolveAll requests) =
      (List.range (guestCount requests)).map fun earlier => guests.next + UInt64.ofNat earlier := by
  induction requests generalizing guests with
  | nil => rfl
  | cons first rest ih =>
    obtain ⟨⟨account, name⟩, invented⟩ := first
    cases account with
    | none =>
      change guests.next :: guestIds (resolveAll ⟨guests.next + 1⟩ rest) = _
      have oneMore : guestCount ((⟨none, name⟩, invented) :: rest) = guestCount rest + 1 :=
        List.countP_cons_of_pos rfl
      rw [ih, oneMore, List.range_succ_eq_map, List.map_cons, List.map_map]
      refine congrArg₂ List.cons (UInt64.add_zero _).symm (List.map_congr_left ?_)
      intro earlier _
      change guests.next + 1 + UInt64.ofNat earlier = guests.next + UInt64.ofNat (earlier + 1)
      rw [UInt64.ofNat_add, UInt64.add_assoc, UInt64.add_comm 1]
      rfl
    | some id => exact ih guests

theorem toNat_numbered {earlier : Nat} (unwrapped : earlier < maxGuests) :
    (guestBase + UInt64.ofNat earlier).toNat = guestBase.toNat + earlier := by
  change earlier < 18446744073709551616 - 281474976710656 at unwrapped
  have size : UInt64.size = 18446744073709551616 := rfl
  change (281474976710656 + UInt64.ofNat earlier).toNat = 281474976710656 + earlier
  rw [UInt64.toNat_add, UInt64.toNat_ofNat_of_lt' (by omega)]
  change (281474976710656 + earlier) % 18446744073709551616 = _
  omega

/-- The numbers of guests, as long as the counter has not come round. -/
theorem mem_guestIds_iff (unwrapped : guestCount requests ≤ maxGuests) (id : PlayerId) :
    id ∈ guestIds (initial.resolveAll requests) ↔
      guestBase ≤ id ∧ id.toNat < guestBase.toNat + guestCount requests := by
  rw [guestIds_resolveAll, List.mem_map]
  simp only [List.mem_range]
  constructor
  · rintro ⟨earlier, less, rfl⟩
    have number := toNat_numbered (Nat.lt_of_lt_of_le less unwrapped)
    change guestBase ≤ guestBase + UInt64.ofNat earlier ∧
      (guestBase + UInt64.ofNat earlier).toNat < _
    rw [UInt64.le_iff_toNat_le, number]
    omega
  · rintro ⟨least, less⟩
    rw [UInt64.le_iff_toNat_le] at least
    have unwrappedToo : id.toNat - guestBase.toNat < maxGuests := by omega
    refine ⟨id.toNat - guestBase.toNat, by omega, UInt64.toNat_inj.mp ?_⟩
    change (guestBase + _).toNat = _
    rw [toNat_numbered unwrappedToo]
    omega

theorem nodup_guestIds (unwrapped : guestCount requests ≤ maxGuests) :
    (guestIds (initial.resolveAll requests)).Nodup := by
  rw [guestIds_resolveAll]
  refine List.Nodup.map_on ?_ List.nodup_range
  intro one within other withinToo same
  have numberOne := toNat_numbered (Nat.lt_of_lt_of_le (List.mem_range.mp within) unwrapped)
  have numberOther := toNat_numbered (Nat.lt_of_lt_of_le (List.mem_range.mp withinToo) unwrapped)
  change guestBase + _ = guestBase + _ at same
  rw [same] at numberOne
  omega

/-- As long as the counter of guests has not come round, guests have different numbers, and a number
that an account brings, before or after, is that of a guest exactly if it is one of those that
follow the base. -/
theorem guests_share_high_numbers_only (requests : List (UpgradeRequest × String))
    (unwrapped : guestCount requests ≤ maxGuests) :
    let identities := initial.resolveAll requests
    accountIds identities = requests.filterMap (·.1.account) ∧
      (guestIds identities).length = guestCount requests ∧ (guestIds identities).Nodup ∧
        ∀ id ∈ accountIds identities, id ∈ guestIds identities ↔
          guestBase ≤ id ∧ id.toNat < guestBase.toNat + guestCount requests := by
  refine ⟨accountIds_resolveAll initial requests, ?_, nodup_guestIds unwrapped, ?_⟩
  · rw [guestIds_resolveAll, List.length_map, List.length_range]
  · intro id _
    exact mem_guestIds_iff unwrapped id

/-- Two guests and three accounts, with the numbers next to those of the guests. -/
theorem guests_share_high_numbers_only_at_their_edge :
    let requests : List (UpgradeRequest × String) :=
      [(⟨some 281474976710655, none⟩, ""), (⟨none, none⟩, "swift-otter"),
        (⟨some 281474976710657, some "ann"⟩, ""), (⟨none, some "bob"⟩, "calm-heron"),
        (⟨some 281474976710658, none⟩, "")]
    let identities := initial.resolveAll requests
    guestCount requests ≤ maxGuests ∧
      accountIds identities = requests.filterMap (·.1.account) ∧
        (guestIds identities).length = guestCount requests ∧ (guestIds identities).Nodup ∧
          ∀ id ∈ accountIds identities, id ∈ guestIds identities ↔
            guestBase ≤ id ∧ id.toNat < guestBase.toNat + guestCount requests := by
  intro requests identities
  have unwrapped : guestCount requests ≤ maxGuests := by decide
  exact ⟨unwrapped, guests_share_high_numbers_only requests unwrapped⟩

/-- An account whose number is the base is let in, and the next guest is given the same number. -/
theorem account_shares_number_with_guest :
    UpgradeRequest.read (some "user_id=281474976710656") = .ok ⟨some guestBase, none⟩ ∧
      ¬∀ requests : List (UpgradeRequest × String), guestCount requests ≤ maxGuests →
        (guestIds (initial.resolveAll requests)).Nodup ∧
          ∀ id ∈ accountIds (initial.resolveAll requests),
            id ∉ guestIds (initial.resolveAll requests) := by
  constructor
  · decide +kernel
  · intro apart
    have never := (apart [(⟨some guestBase, none⟩, ""), (⟨none, none⟩, "swift-otter")]
      (by decide)).2 guestBase (by decide)
    exact never (by decide)

end Guests

end WordGame
