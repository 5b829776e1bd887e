/-!
# Sets of tags

Tags are inherited by union: what a feature, a background, an outline or an examples block is tagged with
holds for every scenario below it. A `TagSet` keeps the names without their `@`, each once, in the order of
their characters, so two sets with the same members are equal (`TagSet.ext_mem`).
-/

set_option autoImplicit false

namespace Acceptance

/-- Put a name at its place in an ascending list, unless it is there already. -/
def insertName (t : String) : List String → List String
  | [] => [t]
  | n :: ns => if t < n then t :: n :: ns else if t = n then n :: ns else n :: insertName t ns

/-- A name that is inserted is there, with those that were. -/
theorem mem_insertName {t m : String} {ns : List String} :
    m ∈ insertName t ns ↔ m = t ∨ m ∈ ns := by
  induction ns with
  | nil => simp [insertName]
  | cons n ns ih =>
    simp only [insertName]
    split
    · simp
    · split
      · next h => subst h; simp
      · simp only [List.mem_cons, ih]
        grind

/-- Names in order stay in order when one is inserted. -/
theorem pairwise_insertName {t : String} {ns : List String} (h : ns.Pairwise (· < ·)) :
    (insertName t ns).Pairwise (· < ·) := by
  induction ns with
  | nil => simp [insertName]
  | cons n ns ih =>
    obtain ⟨first, rest⟩ := List.pairwise_cons.mp h
    simp only [insertName]
    split
    · next lt =>
      refine List.pairwise_cons.mpr ⟨fun m hm => ?_, h⟩
      rcases List.mem_cons.mp hm with rfl | hm
      · exact lt
      · exact String.lt_trans lt (first m hm)
    · next nlt =>
      split
      · exact h
      · next ne =>
        refine List.pairwise_cons.mpr ⟨fun m hm => ?_, ih rest⟩
        rcases mem_insertName.mp hm with rfl | hm
        · exact String.not_le.mp fun le => ne (String.le_antisymm le (String.not_lt.mp nlt))
        · exact first m hm

/-- A set of tag names. -/
structure TagSet where
  names : List String
  /-- The names ascend, so none comes twice. -/
  ascending : names.Pairwise (· < ·)

namespace TagSet

instance : DecidableEq TagSet := fun a b =>
  decidable_of_iff (a.names = b.names) ⟨fun h => by cases a; cases b; simp_all, fun h => h ▸ rfl⟩

instance : Repr TagSet := ⟨fun s n => Repr.addAppParen (repr s.names) n⟩

/-- The set without tags. -/
def empty : TagSet :=
  ⟨[], List.Pairwise.nil⟩

instance : EmptyCollection TagSet := ⟨empty⟩

instance : Inhabited TagSet := ⟨empty⟩

instance : Membership String TagSet := ⟨fun s t => t ∈ s.names⟩

instance (t : String) (s : TagSet) : Decidable (t ∈ s) :=
  inferInstanceAs (Decidable (t ∈ s.names))

/-- Whether a tag is in the set. -/
def contains (s : TagSet) (t : String) : Bool :=
  s.names.contains t

/-- The set with one more tag. -/
def insert (s : TagSet) (t : String) : TagSet :=
  ⟨insertName t s.names, pairwise_insertName s.ascending⟩

/-- The tags of both sets. -/
def union (s other : TagSet) : TagSet :=
  other.names.foldl insert s

instance : Union TagSet := ⟨union⟩

/-- The set of the tags listed. -/
def ofList (tags : List String) : TagSet :=
  tags.foldl insert empty

/-- The number of tags. -/
def size (s : TagSet) : Nat :=
  s.names.length

/-- Whether there is no tag. -/
def isEmpty (s : TagSet) : Bool :=
  s.names.isEmpty

/-- The tags as they are written, with a space between them. -/
def display (s : TagSet) : String :=
  " ".intercalate (s.names.map ("@" ++ ·))

/-- A tag that is inserted is a member, with those that were. -/
@[simp] theorem mem_insert {s : TagSet} {t m : String} : m ∈ s.insert t ↔ m = t ∨ m ∈ s :=
  mem_insertName

/-- All tags that are inserted are members, with those that were. -/
theorem mem_foldl_insert {s : TagSet} {tags : List String} {m : String} :
    m ∈ tags.foldl insert s ↔ m ∈ tags ∨ m ∈ s := by
  induction tags generalizing s with
  | nil => simp
  | cons t ts ih => simp only [List.foldl_cons, ih, mem_insert, List.mem_cons]; grind

/-- The members of two sets are the members of either. -/
@[simp] theorem mem_union {s other : TagSet} {m : String} :
    m ∈ s.union other ↔ m ∈ s ∨ m ∈ other :=
  mem_foldl_insert.trans or_comm

/-- The members of a set that is made of a list are those of the list. -/
@[simp] theorem mem_ofList {tags : List String} {m : String} : m ∈ ofList tags ↔ m ∈ tags := by
  refine mem_foldl_insert.trans ⟨fun h => h.resolve_right ?_, Or.inl⟩
  exact List.not_mem_nil

/-- Two ascending lists with the same members are equal. -/
theorem eq_of_ascending {xs ys : List String} (hx : xs.Pairwise (· < ·)) (hy : ys.Pairwise (· < ·))
    (h : ∀ m, m ∈ xs ↔ m ∈ ys) : xs = ys := by
  induction xs generalizing ys with
  | nil => exact (List.eq_nil_iff_forall_not_mem.mpr fun m hm => by simpa using (h m).mpr hm).symm
  | cons x xs ih =>
    cases ys with
    | nil => simpa using (h x).mp (by simp)
    | cons y ys =>
      obtain ⟨hx1, hx2⟩ := List.pairwise_cons.mp hx
      obtain ⟨hy1, hy2⟩ := List.pairwise_cons.mp hy
      have hxy : x = y := by
        rcases List.mem_cons.mp ((h x).mp (by simp)) with e | hm
        · exact e
        · rcases List.mem_cons.mp ((h y).mpr (by simp)) with e | hm'
          · exact e.symm
          · exact absurd (String.lt_trans (hy1 x hm) (hx1 y hm')) (String.lt_irrefl y)
      subst hxy
      congr 1
      refine ih hx2 hy2 fun m => ⟨fun hm => ?_, fun hm => ?_⟩
      · rcases List.mem_cons.mp ((h m).mp (List.mem_cons_of_mem _ hm)) with rfl | hm'
        · exact absurd (hx1 m hm) (String.lt_irrefl m)
        · exact hm'
      · rcases List.mem_cons.mp ((h m).mpr (List.mem_cons_of_mem _ hm)) with rfl | hm'
        · exact absurd (hy1 m hm) (String.lt_irrefl m)
        · exact hm'

/-- Sets with the same members are equal. -/
theorem ext_mem {s other : TagSet} (h : ∀ m, m ∈ s ↔ m ∈ other) : s = other := by
  obtain ⟨xs, hx⟩ := s
  obtain ⟨ys, hy⟩ := other
  simpa using eq_of_ascending hx hy h

end TagSet

end Acceptance
