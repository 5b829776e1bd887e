import Mathlib.Data.List.Induction
import Mathlib.Data.List.Sort
import Acceptance.Proofs.Outline.Alternation

/-!
# Substitution in one pass

What a substitution makes of a text is said here without one: a single pass from left to right, in which the
longest key at a place gives way to the value that it was given last (`Replaces`). The keys of a substitution are
searched as one regular expression, in the order of their bytes, and no key in that order stands in front of a
longer one that begins with it (`prefers_keys`). So a search that prefers the first alternative finds the longest
key, and a substitution makes of a text just what one pass makes of it, unless the engine has no room for the
expression (`build_cases`).
-/

set_option autoImplicit false

namespace Acceptance.Substitution

open Pattern

variable {pairs others : List (String × String)} {key other value : String} {text rest out : List Char}

/-! ## One pass over a text -/

/-- The value that a key was given last. -/
def lastValue? (pairs : List (String × String)) (key : String) : Option String :=
  ((pairs.filter fun pair => pair.1 = key).getLast?).map Prod.snd

/-- A text begins with a key of the pairs. The empty key is no placeholder. -/
def Begins (pairs : List (String × String)) (key : String) (text : List Char) : Prop :=
  key ≠ "" ∧ key ∈ pairs.map Prod.fst ∧ key.toList <+: text

/-- **One pass from left to right**: where keys begin, the longest of them is replaced and the pass goes on
behind it. Any other character is copied. -/
inductive Replaces (pairs : List (String × String)) : List Char → List Char → Prop where
  | nil : Replaces pairs [] []
  | key {rest out : List Char} (key value : String) : Begins pairs key (key.toList ++ rest) →
      (∀ other, Begins pairs other (key.toList ++ rest) → other.length ≤ key.length) →
      lastValue? pairs key = some value → Replaces pairs rest out →
      Replaces pairs (key.toList ++ rest) (value.toList ++ out)
  | copy {rest out : List Char} (c : Char) : (∀ key, ¬ Begins pairs key (c :: rest)) →
      Replaces pairs rest out → Replaces pairs (c :: rest) (c :: out)

/-- A pair that is given last counts for its key. -/
theorem lastValue?_append_singleton (pairs : List (String × String)) (pair : String × String)
    (key : String) : lastValue? (pairs ++ [pair]) key =
      if pair.1 = key then some pair.2 else lastValue? pairs key := by
  unfold lastValue?
  by_cases h : pair.1 = key
  · simp [h]
  · simp [h]

/-- The keys of the pairs have values. -/
theorem isSome_lastValue? (key : String) :
    (lastValue? pairs key).isSome = true ↔ key ∈ pairs.map Prod.fst := by
  unfold lastValue?
  simp

/-- The longest key at a place is one. -/
theorem Begins.eq_of_longest (hkey : Begins pairs key text) (hother : Begins pairs other text)
    (hlongest : ∀ next, Begins pairs next text → next.length ≤ key.length)
    (hlongest' : ∀ next, Begins pairs next text → next.length ≤ other.length) : key = other := by
  have hlength : key.toList.length = other.toList.length := by
    rw [String.length_toList, String.length_toList]
    exact Nat.le_antisymm (hlongest' key hkey) (hlongest other hother)
  have hbegin := List.prefix_of_prefix_length_le hkey.2.2 hother.2.2 (Nat.le_of_eq hlength)
  exact String.toList_inj.mp (hbegin.eq_of_length hlength)

/-- **One pass has one result.** -/
theorem Replaces.eq {out' : List Char} (h : Replaces pairs text out) (h' : Replaces pairs text out') :
    out = out' := by
  induction h generalizing out' with
  | nil =>
    generalize htext : [] = text at h'
    cases h' with
    | nil => rfl
    | key key value hbegins =>
      exact absurd (String.toList_eq_nil_iff.mp (List.append_eq_nil_iff.mp htext.symm).1) hbegins.1
    | copy => cases htext
  | @key rest out key value hbegins hlongest hlast _ ih =>
    generalize htext : key.toList ++ rest = text at h'
    cases h' with
    | nil => exact absurd (String.toList_eq_nil_iff.mp (List.append_eq_nil_iff.mp htext).1) hbegins.1
    | @key rest' _ other value' hbegins' hlongest' hlast' hrest' =>
      rw [htext] at hbegins hlongest
      obtain rfl := hbegins.eq_of_longest hbegins' hlongest hlongest'
      obtain rfl := List.append_cancel_left htext
      rw [hlast] at hlast'
      rw [Option.some.inj hlast', ih hrest']
    | copy c hnone =>
      rw [htext] at hbegins
      exact absurd hbegins (hnone key)
  | @copy rest out c hnone _ ih =>
    generalize htext : c :: rest = text at h'
    cases h' with
    | nil => cases htext
    | key key value hbegins =>
      rw [← htext] at hbegins
      exact absurd hbegins (hnone key)
    | copy c' _ hrest' =>
      cases htext
      rw [ih hrest']

/-! ## Keys -/

/-- The order of keys, in bytes first. -/
theorem precedes_iff : precedes key other = true ↔ other.utf8ByteSize < key.utf8ByteSize ∨
    key.utf8ByteSize = other.utf8ByteSize ∧ key.toList < other.toList := by
  simp [precedes]

/-- The order of keys is transitive. -/
theorem precedes_trans {third : String} (h : precedes key other = true) (h' : precedes other third = true) :
    precedes key third = true := by
  rw [precedes_iff] at *
  rcases h with h | ⟨hsame, hlt⟩
  · left
    omega
  · rcases h' with h' | ⟨hsame', hlt'⟩
    · left
      omega
    · exact .inr ⟨hsame.trans hsame', List.lt_trans hlt hlt'⟩

/-- Of two keys one comes first. -/
theorem precedes_of_not (hne : key ≠ other) (h : ¬ precedes key other = true) :
    precedes other key = true := by
  rw [precedes_iff, not_or, not_and] at h
  rw [precedes_iff]
  rcases Nat.lt_or_eq_of_le (Nat.le_of_not_lt h.1) with hlt | hsame
  · exact .inl hlt
  · refine .inr ⟨hsame.symm, ?_⟩
    by_contra hnot
    exact hne (String.toList_inj.mp (List.le_antisymm hnot (h.2 hsame)))

/-- Of two keys one only comes first. -/
theorem not_precedes (h : precedes key other = true) : ¬ precedes other key = true := by
  intro h'
  have hself := precedes_iff.mp (precedes_trans h h')
  rcases hself with hlt | ⟨-, hlt⟩
  · exact Nat.lt_irrefl _ hlt
  · exact List.lt_irrefl _ hlt

/-- What is put at its place is there, with all that was there before. -/
theorem mem_insertKey {keys : List String} :
    other ∈ insertKey key keys ↔ other = key ∨ other ∈ keys := by
  induction keys with
  | nil => simp [insertKey]
  | cons first keys ih =>
    unfold insertKey
    split
    · next hsame => simp [hsame]
    · split
      · simp
      · simp only [List.mem_cons, ih]
        exact or_left_comm

/-- A key that is put at its place keeps the order. -/
theorem pairwise_insertKey {keys : List String} (h : keys.Pairwise fun a b => precedes a b = true) :
    (insertKey key keys).Pairwise fun a b => precedes a b = true := by
  induction keys with
  | nil => simp [insertKey]
  | cons first keys ih =>
    obtain ⟨hfirst, hrest⟩ := List.pairwise_cons.mp h
    unfold insertKey
    split
    · exact h
    · next hne =>
      split
      · next hbefore =>
        refine List.pairwise_cons.mpr ⟨?_, h⟩
        intro other hother
        rcases List.mem_cons.mp hother with rfl | hother
        · exact hbefore
        · exact precedes_trans hbefore (hfirst other hother)
      · next hbehind =>
        refine List.pairwise_cons.mpr ⟨?_, ih hrest⟩
        intro other hother
        rcases mem_insertKey.mp hother with rfl | hother
        · exact precedes_of_not hne hbehind
        · exact hfirst other hother

/-- The keys of pairs are in order. -/
theorem pairwise_keys (pairs : List (String × String)) :
    (keys pairs).Pairwise fun a b => precedes a b = true := by
  induction pairs with
  | nil => exact .nil
  | cons pair pairs ih => exact pairwise_insertKey ih

/-- The keys of pairs are those that stand in them. -/
theorem mem_keys : key ∈ keys pairs ↔ key ∈ pairs.map Prod.fst := by
  induction pairs with
  | nil => simp [keys]
  | cons pair pairs ih =>
    rw [keys, List.foldr_cons, mem_insertKey, ← keys, ih]
    simp

/-- The keys of the pairs that count are those that are not empty. -/
theorem mem_keys_kept : key ∈ keys (kept pairs) ↔ key ≠ "" ∧ key ∈ pairs.map Prod.fst := by
  rw [mem_keys, kept]
  simp only [List.map_reverse, List.mem_reverse, List.mem_map, List.mem_filter]
  constructor
  · rintro ⟨pair, ⟨hmem, hkey⟩, rfl⟩
    exact ⟨by simpa using hkey, pair, hmem, rfl⟩
  · rintro ⟨hkey, pair, hmem, rfl⟩
    exact ⟨pair, ⟨hmem, by simpa using hkey⟩, rfl⟩

/-- Pairs with the same keys have them in the same order. -/
theorem keys_eq (h : ∀ key, key ∈ keys pairs ↔ key ∈ keys others) : keys pairs = keys others := by
  have hantisymm : Std.Antisymm fun a b : String => precedes a b = true :=
    ⟨fun _ _ hab hba => absurd hba (not_precedes hab)⟩
  have hirrefl : Std.Irrefl fun a b : String => precedes a b = true :=
    ⟨fun _ hself => not_precedes hself hself⟩
  exact (pairwise_keys pairs).eq_of_mem_iff (pairwise_keys others) h

/-- **No key stands in front of a longer one that begins with it**: it has less bytes than that. -/
theorem prefers_keys (pairs : List (String × String)) :
    (keys pairs).Pairwise fun a b => a.toList <+: b.toList → a = b := by
  refine (pairwise_keys pairs).imp ?_
  rintro a b hbefore ⟨tail, htail⟩
  have hb : b = a ++ String.ofList tail := by
    rw [← String.toList_inj, String.toList_append, String.toList_ofList, htail]
  have hbytes : b.utf8ByteSize = a.utf8ByteSize + (String.ofList tail).utf8ByteSize := by
    rw [hb, String.utf8ByteSize_append]
  rcases precedes_iff.mp hbefore with hless | ⟨hsame, -⟩
  · omega
  · have hempty : String.ofList tail = "" := String.utf8ByteSize_eq_zero_iff.mp (by omega)
    rw [hb, hempty, String.append_empty]

/-! ## What is found -/

/-- The keys as the matcher has them. -/
abbrev searched (pairs : List (String × String)) : List (List Char) :=
  (keys (kept pairs)).map String.toList

/-- The first key that begins a text is the longest one. -/
theorem begins_of_find? {found : List Char} (h : (searched pairs).find? (·.isPrefixOf text) = some found) :
    ∃ key : String, found = key.toList ∧ Begins pairs key text ∧
      ∀ other, Begins pairs other text → other.length ≤ key.length := by
  rw [searched, List.find?_map] at h
  obtain ⟨key, hfind, rfl⟩ := Option.map_eq_some_iff.mp h
  obtain ⟨hbegins, before, behind, hsplit, hbefore⟩ := List.find?_eq_some_iff_append.mp hfind
  have hbegin : key.toList <+: text := List.isPrefixOf_iff_prefix.mp hbegins
  have hkey := mem_keys_kept.mp (hsplit ▸ List.mem_append_right before (List.mem_cons_self (l := behind)))
  refine ⟨key, rfl, ⟨hkey.1, hkey.2, hbegin⟩, fun other hother => ?_⟩
  have hmem : other ∈ before ++ key :: behind := hsplit ▸ mem_keys_kept.mpr ⟨hother.1, hother.2.1⟩
  rcases List.mem_append.mp hmem with hmem | hmem
  · -- a key in front of the first one that begins the text
    have hnot := hbefore other hmem
    simp [List.isPrefixOf_iff_prefix.mpr hother.2.2] at hnot
  · rcases List.mem_cons.mp hmem with rfl | hmem
    · exact Nat.le_refl _
    · apply Nat.le_of_not_lt
      intro hlonger
      rw [← String.length_toList, ← String.length_toList (s := other)] at hlonger
      have hlonger' : key.toList <+: other.toList :=
        List.prefix_of_prefix_length_le hbegin hother.2.2 (Nat.le_of_lt hlonger)
      have hprefers := prefers_keys (kept pairs)
      rw [hsplit] at hprefers
      have hsame : key = other :=
        (List.pairwise_cons.mp (List.pairwise_append.mp hprefers).2.1).1 other hmem hlonger'
      rw [hsame] at hlonger
      exact Nat.lt_irrefl _ hlonger

/-- Where no key is found, none begins the text. -/
theorem not_begins_of_find? (h : (searched pairs).find? (·.isPrefixOf text) = none) (key : String) :
    ¬ Begins pairs key text := by
  rintro ⟨hkey, hmem, hbegin⟩
  have hsearched : key.toList ∈ searched pairs := List.mem_map_of_mem (mem_keys_kept.mpr ⟨hkey, hmem⟩)
  exact List.find?_eq_none.mp h _ hsearched (List.isPrefixOf_iff_prefix.mpr hbegin)

/-- A key that is not empty has the value that it was given last. -/
theorem lookup_kept (hkey : key ≠ "") : (kept pairs).lookup key = lastValue? pairs key := by
  have hlookup (map : List (String × String)) :
      map.lookup key = ((map.filter fun pair => pair.1 = key).head?).map Prod.snd := by
    induction map with
    | nil => rfl
    | cons pair map ih =>
      obtain ⟨k, v⟩ := pair
      rw [List.lookup_cons, List.filter_cons, ih]
      by_cases hsame : k = key
      · simp [hsame]
      · rw [beq_eq_false_iff_ne.mpr (Ne.symm hsame)]
        simp [hsame]
  have hboth : (pairs.filter fun pair => !pair.1.isEmpty).filter (fun pair => pair.1 = key) =
      pairs.filter fun pair => pair.1 = key := by
    rw [List.filter_filter]
    refine List.filter_congr fun pair _ => ?_
    by_cases hsame : pair.1 = key
    · simp [hsame, hkey]
    · simp [hsame]
  rw [hlookup, kept, List.filter_reverse, List.head?_reverse, hboth, lastValue?]

/-! ## What is replaced -/

/-- The substitution of pairs, as it is built where there is room for its matcher. -/
def ofPairs (pairs : List (String × String)) : Substitution :=
  ⟨if keys (kept pairs) = [] then none else some (.ofExpression (anyOf (searched pairs))), kept pairs⟩

/-- A text that no key begins anywhere stays as it is. -/
theorem replaces_self (h : keys (kept pairs) = []) (text : List Char) : Replaces pairs text text := by
  induction text with
  | nil => exact .nil
  | cons c rest ih =>
    refine .copy c (fun key hbegins => ?_) ih
    have hmem := mem_keys_kept.mpr ⟨hbegins.1, hbegins.2.1⟩
    rw [h] at hmem
    cases hmem

/-- **Replacing what the matcher finds is one pass.** -/
theorem replaces_replaceFrom (hkeys : keys (kept pairs) ≠ []) {fuel : Nat} (before : Option Char)
    (behind : Bool) (text : List Char) (hfuel : text.length < fuel) :
    Replaces pairs text ((Matcher.ofExpression (anyOf (searched pairs))).replaceFrom
      (fun found => ((kept pairs).lookup found).getD found) fuel before behind text) := by
  have hsearched : searched pairs ≠ [] := by simpa using hkeys
  -- on the length of the text, because a key takes more than one character away
  induction hlength : text.length using Nat.strongRecOn generalizing text fuel before behind with
  | _ n ih =>
    obtain ⟨fuel, rfl⟩ := Nat.exists_eq_succ_of_ne_zero (Nat.ne_of_gt (Nat.zero_lt_of_lt hfuel))
    cases hfind : (searched pairs).find? (·.isPrefixOf text) with
    | some found =>
      obtain ⟨key, rfl, hbegins, hlongest⟩ := begins_of_find? hfind
      obtain ⟨hkey, hmem, rest, rfl⟩ := hbegins
      have hne : key.toList ≠ [] := mt String.toList_eq_nil_iff.mp hkey
      obtain ⟨value, hvalue⟩ := Option.isSome_iff_exists.mp ((isSome_lastValue? key).mpr hmem)
      have hshorter : rest.length < n := by
        have := List.length_pos_iff.mpr hne
        rw [List.length_append] at hlength
        omega
      rw [replaceFrom_key hne hfind, String.ofList_toList, lookup_kept hkey, hvalue]
      exact .key key value ⟨hkey, hmem, List.prefix_append _ _⟩ hlongest hvalue
        (ih rest.length hshorter _ _ rest (by omega) rfl)
    | none =>
      cases text with
      | nil =>
        rw [replaceFrom_of_none]
        · exact .nil
        · rw [find?_anyOf hsearched, firstKey, hfind]
          rfl
      | cons c rest =>
        rw [List.length_cons] at hlength hfuel
        rw [replaceFrom_cons hsearched hfind]
        exact .copy c (not_begins_of_find? hfind) (ih rest.length (by omega) _ _ rest (by omega) rfl)

/-- **A substitution makes of a text what one pass makes of it.** -/
theorem replaces_iff (pairs : List (String × String)) (text out : String) :
    Replaces pairs text.toList out.toList ↔ out = (ofPairs pairs).apply text := by
  have hpass : Replaces pairs text.toList ((ofPairs pairs).apply text).toList := by
    by_cases hkeys : keys (kept pairs) = []
    · simp only [ofPairs, apply, if_pos hkeys]
      exact replaces_self hkeys _
    · simp only [ofPairs, apply, if_neg hkeys, Matcher.replaceAll, String.toList_ofList]
      exact replaces_replaceFrom hkeys none false text.toList (by omega)
  constructor
  · intro h
    exact String.toList_inj.mp (h.eq hpass)
  · rintro rfl
    exact hpass

/-! ## What is built -/

/-- Why an engine has no room for the keys of pairs, nothing where it has. -/
def refusal? (engine : Engine) (pairs : List (String × String)) : Option String :=
  if keys (kept pairs) = [] then none else engine.refusal? (alternation (keys (kept pairs)))

/-- **What is built** is the substitution of the pairs, unless the engine has no room for their keys. -/
theorem build_eq (engine : Engine) (pairs : List (String × String)) :
    build engine pairs =
      match refusal? engine pairs with
      | some reason => .error ⟨.refused reason⟩
      | none => .ok (ofPairs pairs) := by
  unfold build refusal? ofPairs
  dsimp only
  by_cases hkeys : keys (kept pairs) = []
  · rw [hkeys, if_pos rfl, if_pos rfl]
  · obtain ⟨key, more, hsplit⟩ := List.exists_cons_of_ne_nil hkeys
    rw [if_neg hkeys, if_neg hkeys, searched, hsplit]
    dsimp only
    rw [Engine.matcher, readExpression_alternation (List.cons_ne_nil _ _)]
    dsimp only
    cases engine.refusal? (alternation (key :: more)) <;> rfl

/-- There is no other substitution of pairs. -/
theorem eq_of_build {engine : Engine} {s : Substitution} (h : build engine pairs = .ok s) : s = ofPairs pairs := by
  rw [build_eq] at h
  split at h
  · cases h
  · exact (Except.ok.inj h).symm

/-- Where there is a substitution, the engine has room for the keys. -/
theorem refusal?_of_build {engine : Engine} {s : Substitution} (h : build engine pairs = .ok s) :
    refusal? engine pairs = none := by
  rw [build_eq] at h
  split at h
  · cases h
  · next hroom => exact hroom

/-- Where the engine has room for the keys, there is a substitution. -/
theorem exists_build {engine : Engine} (h : refusal? engine pairs = none) : ∃ s, build engine pairs = .ok s := by
  rw [build_eq, h]
  exact ⟨_, rfl⟩

/-- Pairs that give every key the same value last are replaced alike. -/
theorem Replaces.of_lastValue? (h : ∀ key, lastValue? others key = lastValue? pairs key)
    (hpass : Replaces others text out) : Replaces pairs text out := by
  have hbegins (key : String) (text : List Char) : Begins others key text ↔ Begins pairs key text := by
    rw [Begins, Begins, ← isSome_lastValue?, h, isSome_lastValue?]
  induction hpass with
  | nil => exact .nil
  | key key value hkey hlongest hlast _ ih =>
    refine .key key value ((hbegins _ _).mp hkey) (fun other hother => ?_) (h key ▸ hlast) ih
    exact hlongest other ((hbegins _ _).mpr hother)
  | copy c hnone _ ih => exact .copy c (fun key hkey => hnone key ((hbegins _ _).mpr hkey)) ih

/-- Pairs that give each key the same values in the same order are built alike, whatever the order of their
keys. -/
theorem map_apply_build (engine : Engine)
    (h : ∀ key, (others.filter fun pair => pair.1 = key) = pairs.filter fun pair => pair.1 = key) :
    (build engine others).map apply = (build engine pairs).map apply := by
  have hlast (key : String) : lastValue? others key = lastValue? pairs key := by
    rw [lastValue?, h key, lastValue?]
  have hkeys : keys (kept others) = keys (kept pairs) := by
    apply keys_eq
    intro key
    rw [mem_keys_kept, mem_keys_kept, ← isSome_lastValue?, hlast, isSome_lastValue?]
  have happly : (ofPairs others).apply = (ofPairs pairs).apply := by
    funext text
    have hpass := (replaces_iff others text _).mpr rfl
    exact (replaces_iff pairs text _).mp (hpass.of_lastValue? hlast)
  rw [build_eq, build_eq, refusal?, refusal?, hkeys]
  split
  · rfl
  · exact congrArg Except.ok happly

/-- **A substitution is built unless the engine has no room for its keys**, and is then one pass from left to
right that replaces the longest key at each place by the value that was given last and reads nothing again that
was put in. Pairs with different keys can be given in any order. -/
theorem build_cases (engine : Engine) (pairs : List (String × String)) :
    ((∃ reason, refusal? engine pairs = some reason ∧ build engine pairs = .error ⟨.refused reason⟩) ∨
      (refusal? engine pairs = none ∧ ∃ s, build engine pairs = .ok s ∧
        ∀ text out : String, Replaces pairs text.toList out.toList ↔ out = s.apply text)) ∧
    ∀ others : List (String × String),
      (∀ key, (others.filter fun pair => pair.1 = key) = pairs.filter fun pair => pair.1 = key) →
        (build engine others).map apply = (build engine pairs).map apply := by
  refine ⟨?_, fun others h => map_apply_build engine h⟩
  have hbuild := build_eq engine pairs
  cases hrefusal : refusal? engine pairs with
  | some reason =>
    rw [hrefusal] at hbuild
    exact .inl ⟨reason, rfl, hbuild⟩
  | none =>
    rw [hrefusal] at hbuild
    exact .inr ⟨rfl, _, hbuild, replaces_iff pairs⟩

/-- Keys whose lengths in characters and in bytes go opposite ways, given in either order. -/
theorem build_reversed :
    let pairs := [("abc", "1"), ("éé", "2")]
    (∃ s, build .standard pairs = .ok s ∧ s.apply "éabcéé" = "é12" ∧
        ∀ text out : String, Replaces pairs text.toList out.toList ↔ out = s.apply text) ∧
      (build .standard pairs.reverse).map apply = (build .standard pairs).map apply := by
  intro pairs
  obtain ⟨hcases, hothers⟩ := build_cases .standard pairs
  have hroom : refusal? .standard pairs = none := by decide +kernel
  have htext : (build .standard pairs).toOption.map (·.apply "éabcéé") = some "é12" := by decide +kernel
  refine ⟨?_, hothers _ ?_⟩
  · rw [hroom] at hcases
    rcases hcases with ⟨reason, hreason, -⟩ | ⟨-, s, hs, happly⟩
    · cases hreason
    · rw [hs] at htext
      exact ⟨s, hs, Option.some.inj htext, happly⟩
  · intro key
    by_cases hkey : key = "abc"
    · subst hkey
      decide
    · simp [pairs, List.filter_cons, Ne.symm hkey]

/-- The standard engine has no room for a key that takes more bytes than its limit. -/
theorem refusal?_standard_of_lt (h : Engine.sizeLimit < key.utf8ByteSize * stateBytes) (value : String) :
    refusal? .standard [(key, value)] = some "Compiled regex exceeds size limit of 10485760 bytes." := by
  have hne : key.isEmpty = false := by
    rw [String.isEmpty, beq_eq_false_iff_ne]
    intro hzero
    simp [hzero] at h
  have hkeys : keys (kept [(key, value)]) = [key] := by simp [kept, keys, insertKey, hne]
  rw [refusal?, hkeys, if_neg (List.cons_ne_nil _ _), refusal?_standard_singleton,
    if_neg (Nat.not_le_of_lt h)]

/-- The size of a text of one letter. -/
theorem utf8ByteSize_replicate (n : Nat) : (String.ofList (List.replicate n 'k')).utf8ByteSize = n := by
  induction n with
  | zero => rfl
  | succ n ih =>
    rw [List.replicate_succ, String.ofList_cons, String.utf8ByteSize_append, ih,
      String.utf8ByteSize_singleton]
    exact Nat.add_comm 1 n

/-- A key that is too long for the standard engine: no substitution is built of it. -/
theorem build_long_key :
    build .standard [(String.ofList (List.replicate 500000 'k'), "1")] =
      .error ⟨.refused "Compiled regex exceeds size limit of 10485760 bytes."⟩ := by
  rw [build_eq, refusal?_standard_of_lt]
  rw [utf8ByteSize_replicate]
  decide

example : (build .standard [("<a", "1"), ("<a>", "<b>"), ("<b>", "2"), ("", "3"), ("<b>", "é")]).toOption.map
    (·.apply "<a><a<b>") = some "<b>1é" := by
  decide +kernel

end Acceptance.Substitution
