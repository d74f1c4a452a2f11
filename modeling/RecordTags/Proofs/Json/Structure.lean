import RecordTags.Json.Decode
import RecordTags.Proofs.Json.Text

/-!
Contract: encoded structures, decoded and read from texts.

Owns:
- scalars and lists of encoded values under their decoders;
- the members of a structure, decoded one after the other in the order in which
  they are written: known, unknown, and such as are left out when absent;
- the members that texts can be read as, in the same steps.

Does not own: any particular structure.
-/

namespace RecordTags.Json

/-! ## Decoding -/

theorem decodeString_string (text : String) : decodeString (.string text) = .ok text := rfl

theorem decodeBool_bool (value : Bool) : decodeBool (.bool value) = .ok value := rfl

theorem decodeFloat_float (x : Binary64) : decodeFloat (.float x) = .ok x := rfl

theorem decodeNat_nat {n : Nat} (fits : n < Nat.pow 2 64) : decodeNat (.nat n) = .ok n := by
  have inRange : (0 ≤ (n : Int) && (n : Int) < Nat.pow 2 64) = true := by
    simp only [Bool.and_eq_true, decide_eq_true_iff]
    omega
  rw [Json.nat, decodeNat, if_pos inRange, Int.toNat_natCast]

theorem decodeUInt64_nat (n : UInt64) : decodeUInt64 (.nat n.toNat) = .ok n := by
  rw [decodeUInt64, decodeNat_nat n.toNat_lt]
  exact congrArg Except.ok UInt64.ofNat_toNat

theorem decodeInt64_int (n : Int64) : decodeInt64 (.int n.toInt) = .ok n := by
  have inRange : (-(Nat.pow 2 63 : Int) ≤ n.toInt && n.toInt < Nat.pow 2 63) = true := by
    simp only [Bool.and_eq_true, decide_eq_true_iff]
    exact ⟨n.le_toInt, n.toInt_lt⟩
  rw [decodeInt64, if_pos inRange, Int64.ofInt_toInt]

theorem map_of_eq_ok {α β : Type} {decoded : Except Misfit α} {value : α}
    (decodes : decoded = .ok value) (form : α → β) : decoded.map form = .ok (form value) := by
  rw [decodes]
  rfl

theorem decodeOption_of_ok {α : Type} {decode : Decoder α} {json : Json} {value : α}
    (decodes : decode json = .ok value) (present : json ≠ .null) :
    decodeOption decode json = .ok (some value) := by
  unfold decodeOption
  split
  · contradiction
  · exact map_of_eq_ok decodes _

section

variable {σ : Type} {members : List (Member σ)} {seen : List String} {state : σ} {name : String}
  {value : Json} {rest : List (String × Json)}

theorem decodeMembers_unknown (found : members.find? (·.name == name) = none) :
    decodeMembers members seen state ((name, value) :: rest) =
      decodeMembers members seen state rest := by
  rw [decodeMembers, found]

theorem decodeMembers_stored {known : Member σ} {next : σ}
    (found : members.find? (·.name == name) = some known)
    (unseen : seen.contains name = false) (stores : known.store state value = .ok next) :
    decodeMembers members seen state ((name, value) :: rest) =
      decodeMembers members (name :: seen) next rest := by
  rw [decodeMembers, found]
  simp only [unseen, stores]
  rfl

theorem decodeMembers_known {α : Type} {presence : Presence} {decode : Decoder α}
    {store : σ → α → σ} {part : α}
    (found : members.find? (·.name == name) =
      some ⟨name, presence, fun state json => (decode json).map (store state)⟩)
    (unseen : seen.contains name = false) (decodes : decode value = .ok part) :
    decodeMembers members seen state ((name, value) :: rest) =
      decodeMembers members (name :: seen) (store state part) rest :=
  decodeMembers_stored found unseen (map_of_eq_ok decodes _)

/-- A member that is left out when it is absent. -/
theorem decodeMembers_member? {α : Type} {presence : Presence} {decode : Decoder α}
    {store : σ → Option α → σ} {encode : α → Json} {part? : Option α}
    (found : members.find? (·.name == name) =
      some ⟨name, presence, fun state json => (decodeOption decode json).map (store state)⟩)
    (unseen : seen.contains name = false) (absent : store state none = state)
    (decodes : ∀ part ∈ part?, decodeOption decode (encode part) = .ok (some part)) :
    decodeMembers members seen state (Json.member? name encode part? ++ rest) =
      decodeMembers members ((part?.map fun _ => name).toList ++ seen) (store state part?)
        rest := by
  cases part? with
  | none =>
      rw [absent]
      rfl
  | some part => exact decodeMembers_known found unseen (decodes part rfl)

theorem decodeMembers_nil
    (complete : members.all (fun known =>
      known.presence != .required || seen.contains known.name) = true) :
    decodeMembers members seen state [] = .ok state := by
  rw [decodeMembers, if_pos complete]

end

theorem decodeList_ofList {α : Type} {decode : Decoder α} {encode : α → Json}
    {values : List α} (decodes : ∀ value ∈ values, decode (encode value) = .ok value) :
    decodeList decode (Json.ofList encode values) = .ok values := by
  show (values.map encode).mapM decode = .ok values
  induction values with
  | nil => rfl
  | cons value values inductionHypothesis =>
      obtain ⟨decodesFirst, decodesRest⟩ := List.forall_mem_cons.1 decodes
      rw [List.map_cons, List.mapM_cons, decodesFirst, inductionHypothesis decodesRest]
      rfl

/-! ## Texts -/

theorem readable_nat {n : Nat} (fits : n < Nat.pow 2 64) : (Json.nat n).Readable := by
  refine .int ?_ (Int.ofNat_lt.2 fits)
  omega

theorem readable_int64 (n : Int64) : (Json.int n.toInt).Readable := by
  have wider : (Nat.pow 2 63 : Int) ≤ Number.unsignedBound := by decide
  exact .int n.le_toInt (Int.lt_of_lt_of_le n.toInt_lt wider)

def AllReadable (members : List (String × Json)) : Prop := ∀ member ∈ members, member.2.Readable

theorem allReadable_nil : AllReadable [] := List.forall_mem_nil _

theorem allReadable_cons {name : String} {value : Json} {rest : List (String × Json)}
    (readable : value.Readable) (others : AllReadable rest) : AllReadable ((name, value) :: rest) :=
  List.forall_mem_cons.2 ⟨readable, others⟩

theorem allReadable_member? {α : Type} {name : String} {encode : α → Json} {part? : Option α}
    {rest : List (String × Json)} (readable : ∀ part ∈ part?, (encode part).Readable)
    (others : AllReadable rest) : AllReadable (Json.member? name encode part? ++ rest) := by
  cases part? with
  | none => exact others
  | some part => exact allReadable_cons (readable part rfl) others

end RecordTags.Json
