import Colloquy.Proofs.Json.RoundTrip

/-!
# What is read

Whatever the reader gives has no tuples, the names in its objects are distinct, and no
more lists and objects lie within each other than there was room for
(`Json.readValue_fits`).  With this a value that was read can be written and read again.

`Json.Kept` gathers what a document must satisfy so that nothing of it is lost when it is
written and read (`Json.Kept.decode`).
-/

namespace Colloquy

namespace Json

variable {room fuel : Nat} {text after : Text} {fields : Fields}

/-- A value that a reader can give when there is room for so many lists and objects within each
other. -/
def Fits (room : Nat) (v : Value) : Prop :=
  v.Throughout Value.IsRead ∧ v.depth ≤ room

/-- Fields that a reader can have set. -/
def FieldsFit (room : Nat) (fields : Fields) : Prop :=
  (fields.map Prod.fst).Nodup ∧ ∀ field ∈ fields, Fits room field.2

theorem Fits.list {items : List Value} (h : ∀ item ∈ items, Fits room item) :
    Fits (room + 1) (.list items) := by
  refine ⟨Value.throughout_list.2 ⟨trivial, fun item hitem => (h item hitem).1⟩, ?_⟩
  exact Nat.succ_le_succ (Value.depthItems_le_iff.2 fun item hitem => (h item hitem).2)

theorem Fits.object (h : FieldsFit room fields) : Fits (room + 1) (.object fields) := by
  refine ⟨Value.throughout_object.2 ⟨h.1, fun field hfield => (h.2 field hfield).1⟩, ?_⟩
  exact Nat.succ_le_succ (Value.depthFields_le_iff.2 fun field hfield => (h.2 field hfield).2)

/-! ### Parts of what fits -/

namespace Fits

variable {v : Value}

theorem null (room : Nat) : Fits room .null :=
  ⟨trivial, Nat.zero_le room⟩

theorem ofText (room : Nat) (t : Text) : Fits room (.text t) :=
  ⟨trivial, Nat.zero_le room⟩

theorem item {items : List Value} (h : Fits room (.list items)) :
    ∀ item ∈ items, Fits room item := by
  intro item hitem
  refine ⟨(Value.throughout_list.1 h.1).2 item hitem, ?_⟩
  have hdepth : Value.depthItems items + 1 ≤ room := h.2
  exact Value.depthItems_le_iff.1 (Nat.le_of_succ_le hdepth) item hitem

theorem ofField (h : Fits room (.object fields)) (name : Text) :
    Fits room (Value.ofField fields name) := by
  rw [Value.ofField, Assoc.get?]
  cases hfound : fields.find? fun entry => entry.1 = name with
  | none => exact null room
  | some entry =>
    have hentry := List.mem_of_find?_eq_some hfound
    refine ⟨(Value.throughout_object.1 h.1).2 entry hentry, ?_⟩
    have hdepth : Value.depthFields fields + 1 ≤ room := h.2
    exact Value.depthFields_le_iff.1 (Nat.le_of_succ_le hdepth) entry hentry

theorem field (h : Fits room v) (name : Text) : Fits room (v.field name) := by
  cases v with
  | object fields => exact h.ofField name
  | _ => exact null room

end Fits

/-! ## Fields -/

theorem mem_set {α : Type} {entries : Assoc α} {name : Text} {thing : α} {entry : Text × α}
    (h : entry ∈ Assoc.set entries name thing) : entry ∈ entries ∨ entry = (name, thing) := by
  induction entries with
  | nil => exact .inr (List.mem_singleton.1 h)
  | cons first entries ih =>
    rw [Assoc.set] at h
    split at h
    · rcases List.mem_cons.1 h with rfl | h
      · exact .inr rfl
      · exact .inl (List.mem_cons_of_mem first h)
    · rcases List.mem_cons.1 h with rfl | h
      · exact .inl List.mem_cons_self
      · rcases ih h with h | h
        · exact .inl (List.mem_cons_of_mem first h)
        · exact .inr h

/-- Setting a field keeps the names distinct. -/
theorem nodup_set {α : Type} {entries : Assoc α} (h : (entries.map Prod.fst).Nodup) (name : Text)
    (thing : α) : ((Assoc.set entries name thing).map Prod.fst).Nodup := by
  induction entries with
  | nil => simp [Assoc.set]
  | cons first entries ih =>
    rw [List.map_cons, List.nodup_cons] at h
    rw [Assoc.set]
    split
    · rename_i hname
      rw [List.map_cons, List.nodup_cons, ← hname]
      exact h
    · rename_i hname
      rw [List.map_cons, List.nodup_cons]
      refine ⟨fun hmem => ?_, ih h.2⟩
      obtain ⟨entry, hentry, heq⟩ := List.mem_map.1 hmem
      rcases mem_set hentry with hentry | rfl
      · exact h.1 (heq ▸ List.mem_map_of_mem hentry)
      · exact hname heq.symm

theorem FieldsFit.nil (room : Nat) : FieldsFit room [] :=
  ⟨List.nodup_nil, List.forall_mem_nil _⟩

theorem FieldsFit.set (h : FieldsFit room fields) (name : Text) {v : Value} (hv : Fits room v) :
    FieldsFit room (Assoc.set fields name v) := by
  refine ⟨nodup_set h.1 name v, fun field hfield => ?_⟩
  rcases mem_set hfield with hfield | rfl
  · exact h.2 field hfield
  · exact hv

/-! ## Values -/

theorem readWord?_fits {found : Value × Text} (h : readWord? text = some found) (room : Nat) :
    Fits room found.1 := by
  rw [readWord?, Option.map_eq_some_iff] at h
  obtain ⟨word, hword, rfl⟩ := h
  have hmem := List.mem_of_find?_eq_some hword
  simp only [words, List.mem_cons, List.not_mem_nil, or_false] at hmem
  rcases hmem with rfl | rfl | rfl | rfl | rfl | rfl
  all_goals exact ⟨trivial, Nat.zero_le room⟩

theorem readNumber_fits {found : Value} (h : readNumber text = .ok (found, after)) (room : Nat) :
    Fits room found := by
  rw [readNumber_eq, readUnsigned] at h
  dsimp only at h
  split at h
  · cases h
  split at h
  · cases h
    exact ⟨trivial, Nat.zero_le room⟩
  split at h
  · cases h
    exact ⟨trivial, Nat.zero_le room⟩
  split at h
  · cases h
  · cases h
    exact ⟨trivial, Nat.zero_le room⟩

/-- What the readers give with so much fuel fits. -/
structure ReadersFit (fuel : Nat) : Prop where
  value {room : Nat} {text after : Text} {v : Value}
    (h : readValue fuel room text = .ok (v, after)) : Fits room v
  items {room : Nat} {text after : Text} {items : List Value}
    (h : readItems fuel room text = .ok (items, after)) : ∀ item ∈ items, Fits room item
  fields {room : Nat} {text after : Text} {before fields : Fields} (hbefore : FieldsFit room before)
    (h : readFields fuel room before text = .ok (fields, after)) : FieldsFit room fields

section

variable (ih : ReadersFit fuel)
include ih

theorem ReadersFit.value_succ {v : Value} (h : readValue (fuel + 1) room text = .ok (v, after)) :
    Fits room v := by
  unfold readValue at h
  split at h
  · obtain ⟨⟨t, more⟩, -, h⟩ := bind_eq_ok_iff.1 h
    cases h
    exact ⟨trivial, Nat.zero_le room⟩
  · split at h
    · cases h
    rename_i hroom
    obtain ⟨room, rfl⟩ := Nat.exists_eq_succ_of_ne_zero hroom
    split at h
    · cases h
      exact .object (.nil room)
    · obtain ⟨⟨fields, more⟩, hread, h⟩ := bind_eq_ok_iff.1 h
      cases h
      exact .object (ih.fields (.nil room) hread)
  · split at h
    · cases h
    rename_i hroom
    obtain ⟨room, rfl⟩ := Nat.exists_eq_succ_of_ne_zero hroom
    split at h
    · cases h
      exact .list (List.forall_mem_nil _)
    · obtain ⟨⟨items, more⟩, hread, h⟩ := bind_eq_ok_iff.1 h
      cases h
      exact .list (ih.items hread)
  · split at h
    · rename_i hword
      cases h
      exact readWord?_fits hword room
    · exact readNumber_fits h room

theorem ReadersFit.items_succ {items : List Value}
    (h : readItems (fuel + 1) room text = .ok (items, after)) : ∀ item ∈ items, Fits room item := by
  rw [readItems] at h
  obtain ⟨⟨item, more⟩, hitem, h⟩ := bind_eq_ok_iff.1 h
  dsimp only at h
  split at h
  · cases h
    exact List.forall_mem_singleton.2 (ih.value hitem)
  · obtain ⟨⟨others, more⟩, hothers, h⟩ := bind_eq_ok_iff.1 h
    cases h
    exact List.forall_mem_cons.2 ⟨ih.value hitem, ih.items hothers⟩
  · cases h

theorem ReadersFit.fields_succ {before : Fields} (hbefore : FieldsFit room before)
    (h : readFields (fuel + 1) room before text = .ok (fields, after)) : FieldsFit room fields := by
  unfold readFields at h
  split at h
  · obtain ⟨⟨name, more⟩, -, h⟩ := bind_eq_ok_iff.1 h
    dsimp only at h
    split at h
    · obtain ⟨⟨v, more⟩, hv, h⟩ := bind_eq_ok_iff.1 h
      have hset := hbefore.set name (ih.value hv)
      dsimp only at h
      split at h
      · cases h
        exact hset
      · exact ih.fields hset h
      · cases h
    · cases h
  · cases h

end

theorem readersFit (fuel : Nat) : ReadersFit fuel := by
  induction fuel with
  | zero =>
    refine ⟨fun h => ?_, fun h => ?_, fun _ h => ?_⟩
    · rw [readValue] at h
      cases h
    · rw [readItems] at h
      cases h
    · rw [readFields] at h
      cases h
  | succ fuel ih => exact ⟨ih.value_succ, ih.items_succ, ih.fields_succ⟩

/-- What was read has no tuples and distinct names, and nests no deeper than there was room. -/
theorem readValue_fits {v : Value} (h : readValue fuel room text = .ok (v, after)) : Fits room v :=
  (readersFit fuel).value h

theorem readWhole_fits {v : Value} (h : readWhole text = .ok v) : Fits depthLimit v := by
  unfold readWhole at h
  dsimp only at h
  split at h
  · cases h
  · rename_i hread
    split at h
    · cases h
      exact readValue_fits hread
    · cases h

/-- A document has no tuples and distinct names, and nests no deeper than the limit. -/
theorem decode_fits {octets : Bytes} {v : Value} (h : decode octets = .ok v) :
    Fits depthLimit v := by
  unfold decode at h
  split at h
  · cases h
  · split at h
    · cases h
    · rename_i hread
      cases h
      exact readWhole_fits hread

/-! ## Documents that are kept -/

/-- A document that is read back as it was written. -/
def Kept (v : Value) : Prop :=
  v.Throughout Value.IsRead ∧ v.Throughout Value.ReadsBack ∧ v.Throughout Value.InRange

namespace Kept

theorem null : Kept .null :=
  ⟨trivial, trivial, trivial⟩

theorem ofText {t : Text} (h : ∀ c ∈ t, c < 0x110000) : Kept (.text t) :=
  ⟨trivial, trivial, h⟩

theorem list {items : List Value} (h : ∀ item ∈ items, Kept item) : Kept (.list items) :=
  ⟨Value.throughout_list.2 ⟨trivial, fun item hitem => (h item hitem).1⟩,
    Value.throughout_list.2 ⟨trivial, fun item hitem => (h item hitem).2.1⟩,
    Value.throughout_list.2 ⟨trivial, fun item hitem => (h item hitem).2.2⟩⟩

theorem object (hnames : (fields.map Prod.fst).Nodup)
    (h : ∀ field ∈ fields, (∀ c ∈ field.1, c < 0x110000) ∧ Kept field.2) :
    Kept (.object fields) :=
  ⟨Value.throughout_object.2 ⟨hnames, fun field hfield => (h field hfield).2.1⟩,
    Value.throughout_object.2 ⟨trivial, fun field hfield => (h field hfield).2.2.1⟩,
    Value.throughout_object.2
      ⟨fun field hfield => (h field hfield).1, fun field hfield => (h field hfield).2.2.2⟩⟩

theorem decode {v : Value} {octets : Bytes} (h : Kept v) (hoctets : encode v = .ok octets) :
    Json.decode octets = .ok v :=
  decode_encode h.1 h.2.1 h.2.2 hoctets

end Kept

end Json

end Colloquy
