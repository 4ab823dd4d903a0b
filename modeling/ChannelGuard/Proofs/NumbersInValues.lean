import ChannelGuard.Json.Basic
import Mathlib.Data.List.Forall2

/-!
# The numbers in a value

A value is a tree with numbers among its leaves. A function can be applied to all of them, and they
can be read off in a row. Two values that one map of their numbers makes equal are made equal by
another just when it makes their rows of numbers equal.
-/

namespace ChannelGuard

section

variable {α β γ δ : Type} {f : α → β} {g : α → γ} {as bs : List α}

/-- Rows whose members correspond as their images do correspond as the rows of images do. -/
theorem forall₂_iff_map_eq {R : α → α → Prop} (each : ∀ a ∈ as, ∀ b, R a b ↔ f a = f b) :
    List.Forall₂ R as bs ↔ as.map f = bs.map f := by
  induction as generalizing bs with
  | nil => cases bs <;> simp
  | cons a rest ih =>
    cases bs with
    | nil => simp
    | cons b others =>
      rw [List.forall₂_cons, List.map_cons, List.map_cons, List.cons.injEq,
        each a List.mem_cons_self b, ih fun c member => each c (List.mem_cons_of_mem a member)]

/-- Rows with equal images have equal images under whatever tells no more of them apart. -/
theorem map_eq_map_of_each (rows : as.map f = bs.map f)
    (each : ∀ a ∈ as, ∀ b ∈ bs, f a = f b → g a = g b) : as.map g = bs.map g := by
  induction as generalizing bs with
  | nil => rw [List.map_eq_nil_iff.mp rows.symm]
  | cons a rest ih =>
    cases bs with
    | nil => cases rows
    | cons b others =>
      obtain ⟨first, rows⟩ := List.cons.inj rows
      have later := ih rows fun c listed d listed' =>
        each c (List.mem_cons_of_mem a listed) d (List.mem_cons_of_mem b listed')
      rw [List.map_cons, List.map_cons, later,
        each a List.mem_cons_self b List.mem_cons_self first]

/-- Rows that are joined to equal rows are equal one by one if they are as long one by one. -/
theorem map_eq_map_of_flatMap {row : α → List δ} (alike : as.map g = bs.map g)
    (joined : as.flatMap row = bs.flatMap row)
    (length : ∀ a b, g a = g b → (row a).length = (row b).length)
    (each : ∀ a ∈ as, ∀ b, g a = g b → row a = row b → f a = f b) : as.map f = bs.map f := by
  induction as generalizing bs with
  | nil => rw [List.map_eq_nil_iff.mp alike.symm]
  | cons a rest ih =>
    cases bs with
    | nil => cases alike
    | cons b others =>
      obtain ⟨first, alike⟩ := List.cons.inj alike
      -- Both first rows are equally long, so the joined rows are cut at the same place.
      obtain ⟨start, joined⟩ := List.append_inj joined (length a b first)
      rw [List.map_cons, List.map_cons, each a List.mem_cons_self b first start,
        ih alike joined fun c member => each c (List.mem_cons_of_mem a member)]

end

namespace Json

mutual

/-- The value with a function applied to every number in it. -/
def mapNumbers (f : JsonNumber → JsonNumber) : Json → Json
  | null => null
  | bool b => bool b
  | number n => number (f n)
  | string s => string s
  | array items => array (mapItems f items)
  | object members => object (mapMembers f members)

def mapItems (f : JsonNumber → JsonNumber) : List Json → List Json
  | [] => []
  | item :: rest => mapNumbers f item :: mapItems f rest

def mapMembers (f : JsonNumber → JsonNumber) : List (String × Json) → List (String × Json)
  | [] => []
  | (key, value) :: rest => (key, mapNumbers f value) :: mapMembers f rest

end

mutual

/-- All numbers in a value, in the order in which they stand there. -/
def numbers : Json → List JsonNumber
  | number n => [n]
  | array items => itemNumbers items
  | object members => memberNumbers members
  | _ => []

def itemNumbers : List Json → List JsonNumber
  | [] => []
  | item :: rest => numbers item ++ itemNumbers rest

def memberNumbers : List (String × Json) → List JsonNumber
  | [] => []
  | (_, value) :: rest => numbers value ++ memberNumbers rest

end

variable {f g : JsonNumber → JsonNumber}

theorem mapItems_eq (items : List Json) : mapItems f items = items.map (mapNumbers f) := by
  induction items with
  | nil => rfl
  | cons item rest ih => rw [mapItems, ih, List.map_cons]

theorem mapMembers_eq (members : List (String × Json)) :
    mapMembers f members = members.map (Prod.map id (mapNumbers f)) := by
  induction members with
  | nil => rfl
  | cons member rest ih => rw [mapMembers, ih, List.map_cons, Prod.map, id]

theorem itemNumbers_eq (items : List Json) : itemNumbers items = items.flatMap numbers := by
  induction items with
  | nil => rfl
  | cons item rest ih => rw [itemNumbers, ih, List.flatMap_cons]

theorem memberNumbers_eq (members : List (String × Json)) :
    memberNumbers members = members.flatMap fun member => member.2.numbers := by
  induction members with
  | nil => rfl
  | cons member rest ih => rw [memberNumbers, ih, List.flatMap_cons]

/-- What holds of a value whenever it holds of everything in it holds of every value. -/
theorem induct {motive : Json → Prop} (null : motive .null) (bool : ∀ b, motive (.bool b))
    (number : ∀ n, motive (.number n)) (string : ∀ s, motive (.string s))
    (array : ∀ items, (∀ item ∈ items, motive item) → motive (.array items))
    (object : ∀ members, (∀ member ∈ members, motive member.2) → motive (.object members))
    (value : Json) : motive value := by
  refine Json.rec (motive_1 := motive) (motive_2 := fun items => ∀ item ∈ items, motive item)
    (motive_3 := fun members => ∀ member ∈ members, motive member.2)
    (motive_4 := fun member => motive member.2) null bool number string array object
    ?noItems ?moreItems ?noMembers ?moreMembers (fun _ _ h => h) value
  case noItems | noMembers =>
    intro part none
    cases none
  case moreItems | moreMembers =>
    intro first rest holds others part listed
    rcases List.mem_cons.mp listed with rfl | listed
    · exact holds
    · exact others part listed

theorem mapNumbers_mapNumbers (value : Json) :
    (value.mapNumbers f).mapNumbers g = value.mapNumbers (g ∘ f) := by
  induction value using induct with
  | null | bool b | string s | number n => rfl
  | array items ih =>
    simp only [mapNumbers, mapItems_eq, List.map_map]
    exact congrArg array (List.map_congr_left ih)
  | object members ih =>
    simp only [mapNumbers, mapMembers_eq, List.map_map]
    refine congrArg object (List.map_congr_left fun member listed => ?_)
    exact Prod.ext rfl (ih member listed)

theorem numbers_mapNumbers (value : Json) :
    (value.mapNumbers f).numbers = value.numbers.map f := by
  induction value using induct with
  | null | bool b | string s | number n => rfl
  | array items ih =>
    simp only [mapNumbers, numbers, mapItems_eq, itemNumbers_eq, List.flatMap_map, List.map_flatMap]
    exact List.flatMap_congr ih
  | object members ih =>
    simp only [mapNumbers, numbers, mapMembers_eq, memberNumbers_eq, List.flatMap_map,
      List.map_flatMap]
    exact List.flatMap_congr ih

theorem length_numbers_eq {a b : Json} (alike : a.mapNumbers g = b.mapNumbers g) :
    a.numbers.length = b.numbers.length := by
  have row := congrArg (fun value => value.numbers.length) alike
  simpa only [numbers_mapNumbers, List.length_map] using row

/-- Between values that are alike but for their numbers only the numbers make a difference. -/
theorem mapNumbers_eq_of_numbers {a b : Json} (alike : a.mapNumbers g = b.mapNumbers g)
    (rows : a.numbers.map f = b.numbers.map f) : a.mapNumbers f = b.mapNumbers f := by
  induction a using induct generalizing b with
  | null | bool _ | string _ =>
    cases b with
    | null | bool _ | string _ => exact alike
    | _ => cases alike
  | number n =>
    cases b with
    | number m => simpa [numbers, mapNumbers] using rows
    | _ => cases alike
  | array items ih =>
    cases b with
    | array others =>
      simp only [mapNumbers, mapItems_eq, array.injEq] at alike ⊢
      simp only [numbers, itemNumbers_eq, List.map_flatMap] at rows
      refine map_eq_map_of_flatMap alike rows ?_ fun item listed b => ih item listed
      intro a b alike
      simpa using length_numbers_eq alike
    | _ => cases alike
  | object members ih =>
    cases b with
    | object others =>
      simp only [mapNumbers, mapMembers_eq, object.injEq] at alike ⊢
      simp only [numbers, memberNumbers_eq, List.map_flatMap] at rows
      refine map_eq_map_of_flatMap alike rows ?_ fun member listed b alike rows => ?_
      · intro a b alike
        simpa using length_numbers_eq (Prod.ext_iff.mp alike).2
      · obtain ⟨key, alike⟩ := Prod.ext_iff.mp alike
        exact Prod.ext key (ih member listed alike rows)
    | _ => cases alike

/-- A finer map makes those values equal that a coarser one makes equal and whose numbers it does not
tell apart. -/
theorem mapNumbers_eq_iff {h : JsonNumber → JsonNumber} (coarser : ∀ n, h (f n) = g n)
    {a b : Json} :
    a.mapNumbers f = b.mapNumbers f ↔
      a.mapNumbers g = b.mapNumbers g ∧ a.numbers.map f = b.numbers.map f := by
  constructor
  · intro same
    have composed : h ∘ f = g := funext coarser
    constructor
    · rw [← composed, ← mapNumbers_mapNumbers, same, mapNumbers_mapNumbers]
    · rw [← numbers_mapNumbers, same, numbers_mapNumbers]
  · rintro ⟨alike, rows⟩
    exact mapNumbers_eq_of_numbers alike rows

end Json

end ChannelGuard
