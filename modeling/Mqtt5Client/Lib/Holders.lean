import Mathlib.Data.List.Nodup
import Mathlib.Data.List.Perm.Basic
import Mqtt5Client.Lib.ModifyFirst

/-!
# Identifiers and the objects that hold them

A pool of identifiers in use and the objects that hold them: an object takes an identifier once it needs
one and gives it back when it is destroyed. `Owned` says that the pool is exact: nothing in it has leaked
and nothing that is held was given back.
-/

/-- An object that may hold an identifier. -/
structure Holder (ρ ι : Type) where
  owner : ρ
  needs : Bool
  id : Option ι

namespace Holder

variable {ρ ι : Type} {hs hs' : List (Holder ρ ι)} {ids : List ι} {h : Holder ρ ι} {owner : ρ} {id : ι}
  {pending : Option ρ} {b : Bool}

/-- The identifiers that are held. -/
def held (hs : List (Holder ρ ι)) : List ι := hs.filterMap Holder.id

/-- The pool is exactly what the objects hold, each identifier once; the objects that need one have one,
but for `pending`, which is about to take its own. -/
structure Owned (pending : Option ρ) (hs : List (Holder ρ ι)) (ids : List ι) : Prop where
  distinct : (hs.map Holder.owner).Nodup
  exact : ids.Perm (held hs)
  nodup : ids.Nodup
  free : ∀ h ∈ hs, h.needs = false → h.id = none
  taken : ∀ h ∈ hs, h.needs = true → h.id = none → pending = some h.owner

theorem Owned.nil : Owned pending ([] : List (Holder ρ ι)) [] where
  distinct := List.nodup_nil
  exact := .refl _
  nodup := List.nodup_nil
  free := fun _ h => absurd h List.not_mem_nil
  taken := fun _ h => absurd h List.not_mem_nil

/-- The order of the objects does not matter. -/
theorem Owned.perm (h : Owned pending hs ids) (hp : hs.Perm hs') : Owned pending hs' ids where
  distinct := (hp.map Holder.owner).nodup_iff.mp h.distinct
  exact := h.exact.trans (hp.filterMap _)
  nodup := h.nodup
  free := fun x hx => h.free x (hp.mem_iff.mpr hx)
  taken := fun x hx => h.taken x (hp.mem_iff.mpr hx)

/-- A new object needs no identifier yet. -/
theorem Owned.create (h : Owned pending hs ids) (hnew : owner ∉ hs.map Holder.owner) :
    Owned pending (⟨owner, false, none⟩ :: hs) ids where
  distinct := List.nodup_cons.mpr ⟨hnew, h.distinct⟩
  exact := h.exact
  nodup := h.nodup
  free := fun x hx hneeds => by
    rcases List.mem_cons.mp hx with rfl | hx
    · rfl
    · exact h.free x hx hneeds
  taken := fun x hx hneeds hid => by
    rcases List.mem_cons.mp hx with rfl | hx
    · cases hneeds
    · exact h.taken x hx hneeds hid

/-- An object without an identifier begins to need one. -/
theorem Owned.mark (h : Owned none (⟨owner, false, none⟩ :: hs) ids) (b : Bool) :
    Owned (some owner) (⟨owner, b, none⟩ :: hs) ids where
  distinct := h.distinct
  exact := h.exact
  nodup := h.nodup
  free := fun x hx hneeds => by
    rcases List.mem_cons.mp hx with rfl | hx
    · rfl
    · exact h.free x (List.mem_cons_of_mem _ hx) hneeds
  taken := fun x hx hneeds hid => by
    rcases List.mem_cons.mp hx with rfl | hx
    · rfl
    · exact absurd (h.taken x (List.mem_cons_of_mem _ hx) hneeds hid) (by simp)

/-- The object that waits for an identifier takes one that is not in use. -/
theorem Owned.take {ids' : List ι} (h : Owned (some owner) (⟨owner, b, none⟩ :: hs) ids)
    (hnew : id ∉ ids) (hids : ids'.Perm (id :: ids)) :
    Owned none (⟨owner, true, some id⟩ :: hs) ids' where
  distinct := h.distinct
  exact := hids.trans (h.exact.cons id)
  nodup := hids.nodup_iff.mpr (List.nodup_cons.mpr ⟨hnew, h.nodup⟩)
  free := fun x hx hneeds => by
    rcases List.mem_cons.mp hx with rfl | hx
    · cases hneeds
    · exact h.free x (List.mem_cons_of_mem _ hx) hneeds
  taken := fun x hx hneeds hid => by
    rcases List.mem_cons.mp hx with rfl | hx
    · cases hid
    · -- no other object waits
      have hx' := Option.some.inj (h.taken x (List.mem_cons_of_mem _ hx) hneeds hid)
      have hnd := (List.nodup_cons.mp h.distinct).1
      exact absurd (List.mem_map.mpr ⟨x, hx, hx'.symm⟩) hnd

/-- An object that needs nothing goes on without an identifier. -/
theorem Owned.keep (h : Owned (some owner) (⟨owner, false, none⟩ :: hs) ids) :
    Owned none (⟨owner, false, none⟩ :: hs) ids where
  distinct := h.distinct
  exact := h.exact
  nodup := h.nodup
  free := h.free
  taken := fun x hx hneeds hid => by
    rcases List.mem_cons.mp hx with rfl | hx
    · cases hneeds
    · have hx' := Option.some.inj (h.taken x (List.mem_cons_of_mem _ hx) hneeds hid)
      have hnd := (List.nodup_cons.mp h.distinct).1
      exact absurd (List.mem_map.mpr ⟨x, hx, hx'.symm⟩) hnd

/-- The object that waits is gone. -/
theorem Owned.gone (h : Owned (some owner) hs ids) (hgone : owner ∉ hs.map Holder.owner) :
    Owned none hs ids where
  distinct := h.distinct
  exact := h.exact
  nodup := h.nodup
  free := h.free
  taken := fun x hx hneeds hid => by
    have hx' := Option.some.inj (h.taken x hx hneeds hid)
    exact absurd (List.mem_map.mpr ⟨x, hx, hx'.symm⟩) hgone

/-- What a destroyed object holds is in the pool. -/
theorem Owned.mem (hown : Owned pending (h :: hs) ids) (hid : h.id = some id) : id ∈ ids := by
  refine hown.exact.mem_iff.mpr ?_
  exact List.mem_filterMap.mpr ⟨h, List.mem_cons_self, hid⟩

/-- The pool after an object has given back what it holds. -/
def release [DecidableEq ι] (h : Holder ρ ι) (ids : List ι) : List ι :=
  match h.id with
  | none => ids
  | some id => ids.erase id

theorem Owned.erase [DecidableEq ι] (hown : Owned pending (h :: hs) ids) :
    Owned pending hs (h.release ids) := by
  have hexact : (h.release ids).Perm (held hs) := by
    unfold release
    cases hid : h.id with
    | none =>
      have := hown.exact
      rwa [held, List.filterMap_cons_none hid] at this
    | some id =>
      have := hown.exact.erase id
      rwa [held, List.filterMap_cons_some hid, List.erase_cons_head] at this
  refine ⟨(List.nodup_cons.mp hown.distinct).2, hexact, ?_, fun x hx => ?_, fun x hx => ?_⟩
  · unfold release
    cases h.id with
    | none => exact hown.nodup
    | some id => exact hown.nodup.erase id
  · exact hown.free x (List.mem_cons_of_mem _ hx)
  · exact hown.taken x (List.mem_cons_of_mem _ hx)

/-- With nothing pending, the pool is what the objects in need hold. -/
theorem Owned.mem_iff (hown : Owned none hs ids) :
    id ∈ ids ↔ ∃ h ∈ hs, h.needs = true ∧ h.id = some id := by
  rw [hown.exact.mem_iff]
  constructor
  · intro hmem
    obtain ⟨x, hx, hid⟩ := List.mem_filterMap.mp hmem
    refine ⟨x, hx, ?_, hid⟩
    cases hneeds : x.needs with
    | true => rfl
    | false => rw [hown.free x hx hneeds] at hid; cases hid
  · rintro ⟨x, hx, -, hid⟩
    exact List.mem_filterMap.mpr ⟨x, hx, hid⟩

/-- No two objects hold the same identifier. -/
theorem Owned.inj (hown : Owned pending hs ids) {h' : Holder ρ ι} (hx : h ∈ hs) (hx' : h' ∈ hs)
    (hid : h.id = some id) (hid' : h'.id = some id) : h = h' := by
  have hnd := hown.exact.nodup_iff.mp hown.nodup
  unfold held at hnd
  clear hown
  induction hs with
  | nil => cases hx
  | cons x xs ih =>
    -- the first object holds what no other one does
    have hhead : ∀ y ∈ xs, y.id = some id → x.id = some id → False := by
      intro y hy hyid hxid
      rw [List.filterMap_cons_some hxid] at hnd
      exact (List.nodup_cons.mp hnd).1 (List.mem_filterMap.mpr ⟨y, hy, hyid⟩)
    have htail : (xs.filterMap Holder.id).Nodup := by
      cases hxid : x.id with
      | none => rwa [List.filterMap_cons_none hxid] at hnd
      | some i =>
        rw [List.filterMap_cons_some hxid] at hnd
        exact (List.nodup_cons.mp hnd).2
    rcases List.mem_cons.mp hx with hxx | hx
    · rcases List.mem_cons.mp hx' with hxx' | hx'
      · rw [hxx, hxx']
      · exact (hhead h' hx' hid' (hxx ▸ hid)).elim
    · rcases List.mem_cons.mp hx' with hxx' | hx'
      · exact (hhead h hx hid (hxx' ▸ hid')).elim
      · exact ih hx hx' htail

end Holder
