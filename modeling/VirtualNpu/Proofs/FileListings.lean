import Mathlib.Data.List.Forall2
import Mathlib.Data.List.Nodup
import VirtualNpu.Inventory.Listing
import VirtualNpu.Proofs.SnapshotListings

/-!
Two ways to list the devices of a file.  They may be taken from one reading, or asked for one after
the other by their indices.  A question is answered by the first entry with its index, so both ways
come to the same list exactly if no later entry contradicts the first of its index.
-/

namespace VirtualNpu
namespace Inventory

/-! ### Entries of one index -/

structure IsFirstWith (devices : List (UInt32 × RawDevice)) (id : UInt32)
    (entry : UInt32 × RawDevice) : Prop where
  index : entry.1 = id
  place : ∃ front back, devices = front ++ entry :: back ∧ ∀ earlier ∈ front, earlier.1 ≠ id

/-- The entries of a list that repeat the index of an earlier one, each with the first of its
index. -/
inductive Repeats : List (UInt32 × RawDevice) → UInt32 × RawDevice → UInt32 × RawDevice → Prop
  | behind {front middle back : List (UInt32 × RawDevice)} {first repeated : UInt32 × RawDevice}
      (fresh : ∀ earlier ∈ front, earlier.1 ≠ first.1) (same : repeated.1 = first.1) :
      Repeats (front ++ first :: (middle ++ repeated :: back)) first repeated

def RepeatsAgree (devices : List (UInt32 × RawDevice)) : Prop :=
  ∀ first repeated, Repeats devices first repeated → repeated.2 = first.2

variable {devices : List (UInt32 × RawDevice)} {id : UInt32} {entry : UInt32 × RawDevice}

theorem find?_eq_some_iff_isFirstWith :
    (devices.find? fun device => device.1 = id) = some entry ↔ IsFirstWith devices id entry := by
  rw [List.find?_eq_some_iff_append, decide_eq_true_iff]
  have fresh : ∀ front : List (UInt32 × RawDevice),
      (∀ earlier ∈ front, (!decide (earlier.1 = id)) = true) ↔ ∀ earlier ∈ front, earlier.1 ≠ id := by
    simp
  simp only [fresh]
  exact ⟨fun first => ⟨first.1, first.2⟩, fun first => ⟨first.index, first.place⟩⟩

theorem IsFirstWith.unique {other : UInt32 × RawDevice} (one : IsFirstWith devices id entry)
    (another : IsFirstWith devices id other) : entry = other :=
  Option.some.inj ((find?_eq_some_iff_isFirstWith.mpr one).symm.trans
    (find?_eq_some_iff_isFirstWith.mpr another))

theorem exists_isFirstWith (member : entry ∈ devices) :
    ∃ first, IsFirstWith devices entry.1 first := by
  cases found : devices.find? fun device => device.1 = entry.1 with
  | none => exact absurd (decide_eq_true rfl) (List.find?_eq_none.mp found entry member)
  | some first => exact ⟨first, find?_eq_some_iff_isFirstWith.mp found⟩

theorem repeatsAgree_iff :
    RepeatsAgree devices ↔ ∀ entry ∈ devices, IsFirstWith devices entry.1 entry := by
  constructor
  · intro agree entry member
    obtain ⟨first, index, front, back, listed, fresh⟩ := exists_isFirstWith member
    have place : IsFirstWith devices entry.1 first := ⟨index, front, back, listed, fresh⟩
    rw [listed, List.mem_append, List.mem_cons] at member
    rcases member with before | rfl | behind
    · exact absurd rfl (fresh entry before)
    · exact place
    · obtain ⟨middle, rest, rfl⟩ := List.mem_iff_append.mp behind
      have repeats : Repeats devices first entry := by
        rw [listed]
        exact .behind (index ▸ fresh) index.symm
      have same : entry = first := Prod.ext index.symm (agree first entry repeats)
      exact same ▸ place
  · intro own first repeated repeats
    cases repeats with
    | @behind front middle back _ _ fresh same =>
        have place : IsFirstWith _ repeated.1 first :=
          ⟨same.symm, front, middle ++ repeated :: back, rfl, same ▸ fresh⟩
        exact congrArg Prod.snd ((own repeated (by simp)).unique place)

theorem repeatsAgree_of_nodup (distinct : (devices.map Prod.fst).Nodup) :
    RepeatsAgree devices := by
  intro first repeated repeats
  cases repeats with
  | behind fresh same =>
      simp only [List.map_append, List.map_cons] at distinct
      have apart := (List.nodup_cons.mp distinct.of_append_right).1
      exact absurd (by simp [same]) apart

/-- The first entries of the indices of a list are that list exactly if none contradicts them. -/
theorem firsts_eq_iff {told : List (UInt32 × RawDevice)}
    (firsts : List.Forall₂ (fun entry first => IsFirstWith devices entry.1 first) devices told) :
    devices = told ↔ RepeatsAgree devices := by
  rw [repeatsAgree_iff, ← List.forall₂_same]
  constructor
  · intro same
    rwa [← same] at firsts
  · intro own
    have unique : Relator.RightUnique fun entry first : UInt32 × RawDevice =>
        IsFirstWith devices entry.1 first := fun _ _ _ one another => one.unique another
    exact List.right_unique_forall₂' unique own firsts

/-! ### One file, read in two ways -/

def refusal (path : String) : ListingFile → String
  | none => "cannot read " ++ path
  | some _ => "cannot parse " ++ path

def listedByQuery (path : String) (file : ListingFile) :
    Answer ListingFile (List (UInt32 × RawDevice)) :=
  listByQuery (listed path).logicIds (listed path).query file

section
variable (path : String) {file : ListingFile}

theorem readFile_eq_ok {listing : Listing} (holds : file.bind Listing.parse? = some listing) :
    readFile path file = .ok listing := by
  obtain ⟨text, rfl, parsed⟩ := Option.bind_eq_some_iff.mp holds
  simp only [readFile, parsed]

theorem readFile_eq_error (lacks : file.bind Listing.parse? = none) :
    readFile path file = .error (.of (.enumerate (refusal path file))) := by
  cases file with
  | none => rfl
  | some text =>
      rw [Option.bind_some] at lacks
      simp only [readFile, lacks, refusal]

theorem query_listed {listing : Listing} (holds : file.bind Listing.parse? = some listing)
    (first : IsFirstWith listing.devices id entry) :
    (listed path).query id file = (.ok entry.2, file) := by
  have found := find?_eq_some_iff_isFirstWith.mpr first
  change (queryFile path id file, file) = _
  simp only [queryFile, readFile_eq_ok path holds, found]

theorem queried_listed {listing : Listing} (holds : file.bind Listing.parse? = some listing)
    {entries : List (UInt32 × RawDevice)} (known : ∀ entry ∈ entries, entry ∈ listing.devices) :
    ∃ told, Queried (listed path).query (entries.map Prod.fst) file told file ∧
      List.Forall₂ (fun entry first => IsFirstWith listing.devices entry.1 first) entries told := by
  induction entries with
  | nil => exact ⟨[], .nil file, .nil⟩
  | cons entry rest ih =>
      rw [List.forall_mem_cons] at known
      obtain ⟨told, queried, firsts⟩ := ih known.2
      obtain ⟨⟨index, device⟩, place⟩ := exists_isFirstWith known.1
      have same : index = entry.1 := place.index
      subst same
      exact ⟨_, .cons (query_listed path holds place) queried, .cons place firsts⟩

theorem listedByQuery_eq_ok {listing : Listing} (holds : file.bind Listing.parse? = some listing) :
    ∃ told, listedByQuery path file = (.ok told, file) ∧
      List.Forall₂ (fun entry first => IsFirstWith listing.devices entry.1 first)
        listing.devices told := by
  obtain ⟨told, queried, firsts⟩ := queried_listed path holds fun entry member => member
  refine ⟨told, ?_, firsts⟩
  have enumerated : (listed path).logicIds file = (.ok (listing.devices.map Prod.fst), file) := by
    change ((readFile path file).map _, file) = _
    rw [readFile_eq_ok path holds]
    rfl
  simp only [listedByQuery, listByQuery, enumerated, queried.listed]

theorem listed_devices {listing : Listing} (holds : file.bind Listing.parse? = some listing) :
    (listed path).devices file = (.ok listing.devices, file) := by
  change ((readFile path file).map _, file) = _
  rw [readFile_eq_ok path holds]
  rfl

theorem listed_devices_refused (lacks : file.bind Listing.parse? = none) :
    (listed path).devices file = (.error (.of (.enumerate (refusal path file))), file) := by
  change ((readFile path file).map _, file) = _
  rw [readFile_eq_error path lacks]
  rfl

theorem listedByQuery_refused (lacks : file.bind Listing.parse? = none) :
    listedByQuery path file = (.error (.of (.enumerate (refusal path file))), file) := by
  have unenumerated : (listed path).logicIds file =
      (.error (.of (.enumerate (refusal path file))), file) := by
    change ((readFile path file).map _, file) = _
    rw [readFile_eq_error path lacks]
    rfl
  simp only [listedByQuery, listByQuery, unenumerated]

theorem query_refused (lacks : file.bind Listing.parse? = none) (id : UInt32) :
    (listed path).query id file = (.error ⟨.query id "inventory listing unavailable",
      [.enumerate (refusal path file)], []⟩, file) := by
  change (queryFile path id file, file) = _
  simp only [queryFile, readFile_eq_error path lacks, Report.above, Report.of]

end

/-- If a file holds a listing, both ways to list its devices succeed, and questions are answered by
the first entry of their index.  They agree exactly if the entries of each index do, as they do if
no index is repeated.  If it holds none, both are refused for the same reason, and so is every
question. -/
theorem listing_agrees_with_queries (path : String) (file : ListingFile) :
    (∀ listing, file.bind Listing.parse? = some listing →
      (listed path).devices file = (.ok listing.devices, file) ∧
      (∃ told, listedByQuery path file = (.ok told, file) ∧
        List.Forall₂ (fun entry first => IsFirstWith listing.devices entry.1 first)
          listing.devices told) ∧
      ((listed path).devices file = listedByQuery path file ↔ RepeatsAgree listing.devices) ∧
      ((listing.devices.map Prod.fst).Nodup → RepeatsAgree listing.devices)) ∧
    (file.bind Listing.parse? = none →
      (listed path).devices file = (.error (.of (.enumerate (refusal path file))), file) ∧
      listedByQuery path file = (.error (.of (.enumerate (refusal path file))), file) ∧
      ∀ id, (listed path).query id file = (.error ⟨.query id "inventory listing unavailable",
        [.enumerate (refusal path file)], []⟩, file)) := by
  constructor
  · intro listing holds
    obtain ⟨told, byQuery, firsts⟩ := listedByQuery_eq_ok path holds
    refine ⟨listed_devices path holds, ⟨told, byQuery, firsts⟩, ?_, repeatsAgree_of_nodup⟩
    rw [listed_devices path holds, byQuery, ← firsts_eq_iff firsts]
    simp
  · intro lacks
    exact ⟨listed_devices_refused path lacks, listedByQuery_refused path lacks,
      query_refused path lacks⟩

/-- A listing with two entries of one index, which tell two devices. -/
def dividedText : String :=
  "chipName: c\ndevices:\n- \x7blogicId: 0, uuid: a, physicalId: 2, cardId: 0, deviceId: 0\x7d\n"
    ++ "- \x7blogicId: 0, uuid: b, physicalId: 2, cardId: 0, deviceId: 0\x7d\n"

def dividedDevices : List (UInt32 × RawDevice) :=
  [(0, ⟨"a", 2, 0, 0, -1, true⟩), (0, ⟨"b", 2, 0, 0, -1, true⟩)]

theorem divided_listing_told_twice :
    (some dividedText).bind Listing.parse? = some ⟨"c", dividedDevices⟩ ∧
      (listed "list.yaml").devices (some dividedText) =
        (.ok dividedDevices, some dividedText) ∧
      (listed "list.yaml").devices (some dividedText) ≠
        listedByQuery "list.yaml" (some dividedText) ∧
      (none : ListingFile).bind Listing.parse? = none ∧
      ∃ cause, listedByQuery "list.yaml" none =
        (.error (.of (.enumerate "cannot read list.yaml")), none) ∧
        ((listed "list.yaml").query 7 none).1 =
          .error ⟨.query 7 "inventory listing unavailable", [cause], []⟩ := by
  have holds : (some dividedText).bind Listing.parse? = some ⟨"c", dividedDevices⟩ := by
    decide +kernel
  have conflict : Repeats dividedDevices (0, ⟨"a", 2, 0, 0, -1, true⟩)
      (0, ⟨"b", 2, 0, 0, -1, true⟩) :=
    @Repeats.behind [] [] [] _ _ (List.forall_mem_nil _) rfl
  have disagree : ¬ RepeatsAgree dividedDevices := by
    intro agree
    exact absurd (agree _ _ conflict) (by decide)
  obtain ⟨told, -, agrees, -⟩ :=
    (listing_agrees_with_queries "list.yaml" (some dividedText)).1 _ holds
  obtain ⟨-, refused, unanswered⟩ :=
    (listing_agrees_with_queries "list.yaml" none).2 rfl
  exact ⟨holds, told, fun same => disagree (agrees.mp same), rfl, _, refused,
    congrArg Prod.fst (unanswered 7)⟩

end Inventory
end VirtualNpu
