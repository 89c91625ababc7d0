import Gmv.Library.Checks
import Mathlib.Data.List.Forall2
import Mathlib.Data.List.Sort
import Mathlib.Order.Defs.LinearOrder

/-!
# Keyset paging

The rows of a table are read page by page in the order of their keys, each page
from behind the last row of the one before, until a page comes back short.  Every
item that was read is processed before the next page is.  As long as processing an
item changes nothing behind it, the walk reads what one query would have read.
-/

namespace Gmv.Library.KeysetPaging

variable {ι κ ρ τ ε ω : Type}

/-- Read, process and go on behind the last item.  The walk ends with the items that
were visited, and with the error of a page that failed. -/
def walk (page : Option ι → ω → Except ε (List τ)) (process : τ → ω → ω) (ident : τ → ι)
    (limit : Nat) : Nat → Option ι → ω → Option (List τ × Except ε Unit × ω)
  | 0, _, _ => none
  | fuel + 1, cursor, world =>
      match page cursor world with
      | .error failure => some ([], .error failure, world)
      | .ok items =>
          if items.isEmpty then some ([], .ok (), world)
          else
            let processed := items.foldl (fun world item => process item world) world
            if items.length < limit then some (items, .ok (), processed)
            else
              (walk page process ident limit fuel (items.getLast?.map ident) processed).map
                fun (visited, ended, last) => (items ++ visited, ended, last)

theorem mapM_eq_ok_iff {convert : ρ → Except ε τ} {rows : List ρ} {items : List τ} :
    rows.mapM convert = .ok items ↔
      List.Forall₂ (fun row item => convert row = .ok item) rows items := by
  induction rows generalizing items with
  | nil =>
      rw [List.mapM_nil, List.forall₂_nil_left_iff]
      constructor
      · rintro ⟨⟩
        rfl
      · rintro rfl
        rfl
  | cons row rest ih =>
      rw [List.mapM_cons, List.forall₂_cons_left_iff]
      simp only [check_bind_eq_ok, check_pure_eq_ok, ih]
      constructor
      · rintro ⟨item, first, others, read, rfl⟩
        exact ⟨item, others, first, read, rfl⟩
      · rintro ⟨item, others, first, read, rfl⟩
        exact ⟨item, first, others, read, rfl⟩

theorem exists_of_mem_left {related : ρ → τ → Prop} {rows : List ρ} {items : List τ}
    (correspond : List.Forall₂ related rows items) {row : ρ} (member : row ∈ rows) :
    ∃ item ∈ items, related row item := by
  induction correspond with
  | nil => cases member
  | @cons first item others rest isRelated _ ih =>
      rcases List.mem_cons.mp member with rfl | later
      · exact ⟨item, List.mem_cons_self, isRelated⟩
      · obtain ⟨other, isOther, otherRelated⟩ := ih later
        exact ⟨other, List.mem_cons_of_mem _ isOther, otherRelated⟩

/-- Of two lists that correspond, the last entries do. -/
theorem last_of_forall₂ {related : ρ → τ → Prop} {rows : List ρ} {items : List τ}
    (correspond : List.Forall₂ related rows items) (nonempty : rows ≠ []) :
    ∃ first row item, rows = first ++ [row] ∧ items.getLast? = some item ∧ related row item := by
  induction correspond with
  | nil => exact absurd rfl nonempty
  | @cons row item others rest isRelated more ih =>
      cases more with
      | nil => exact ⟨[], row, item, rfl, rfl, isRelated⟩
      | cons _ _ =>
          obtain ⟨first, last, lastItem, split, isLast, lastRelated⟩ := ih (List.cons_ne_nil _ _)
          refine ⟨row :: first, last, lastItem, ?_, ?_, lastRelated⟩
          · rw [split, List.cons_append]
          · rw [List.getLast?_cons_cons]
            exact isLast

section Behind

variable [LinearOrder κ] (key : ρ → κ)

/-- The rows behind a key. -/
def behind (cursor : Option κ) (rows : List ρ) : List ρ :=
  rows.filter fun row => cursor.all fun bound => decide (bound < key row)

variable {key}

@[simp]
theorem behind_none (rows : List ρ) : behind key none rows = rows := by
  simp [behind]

theorem mem_behind {cursor : Option κ} {rows : List ρ} {row : ρ} :
    row ∈ behind key cursor rows ↔ row ∈ rows ∧ ∀ bound ∈ cursor, bound < key row := by
  simp [behind, Option.all_eq_true]

/-- Rows in the order of their keys are told by what they contain. -/
theorem eq_of_ascending {first second : List ρ}
    (firstAscends : first.Pairwise fun a b => key a < key b)
    (secondAscends : second.Pairwise fun a b => key a < key b)
    (same : ∀ row, row ∈ first ↔ row ∈ second) : first = second := by
  have : Std.Irrefl fun a b : ρ => key a < key b := ⟨fun a => lt_irrefl (key a)⟩
  have : Std.Antisymm fun a b : ρ => key a < key b :=
    ⟨fun a b less more => absurd (less.trans more) (lt_irrefl (key a))⟩
  exact firstAscends.eq_of_mem_iff secondAscends same

theorem behind_behind {cursor : Option κ} {bound : κ} (later : ∀ earlier ∈ cursor, earlier ≤ bound)
    (rows : List ρ) :
    behind key (some bound) (behind key cursor rows) = behind key (some bound) rows := by
  rw [behind, behind, List.filter_filter]
  apply List.filter_congr
  intro row _
  cases cursor with
  | none => simp
  | some earlier =>
      have before := later earlier rfl
      by_cases beyond : bound < key row
      · simp [beyond, lt_of_le_of_lt before beyond]
      · simp [beyond]

/-- What lies behind a row that was read is what follows it. -/
theorem behind_of_split {cursor : Option κ} {rows first rest : List ρ} {row : ρ}
    (ascends : rows.Pairwise fun a b => key a < key b)
    (split : behind key cursor rows = first ++ row :: rest) :
    behind key (some (key row)) rows = rest := by
  have read : row ∈ behind key cursor rows := by
    rw [split]
    exact List.mem_append_right _ (List.mem_cons_self ..)
  have ordered : (first ++ row :: rest).Pairwise fun a b => key a < key b := by
    rw [← split]
    exact ascends.filter _
  rw [List.pairwise_append, List.pairwise_cons] at ordered
  obtain ⟨-, ⟨after, -⟩, before⟩ := ordered
  rw [← behind_behind fun bound isCursor => le_of_lt ((mem_behind.mp read).2 bound isCursor),
    split, behind, List.filter_append, List.filter_cons_of_neg (by simp)]
  have none' : first.filter (fun other => (some (key row)).all fun bound =>
      decide (bound < key other)) = [] := by
    rw [List.filter_eq_nil_iff]
    intro other member
    simpa using le_of_lt (before other member row (List.mem_cons_self ..))
  have all' : rest.filter (fun other => (some (key row)).all fun bound =>
      decide (bound < key other)) = rest := by
    rw [List.filter_eq_self]
    intro other member
    simpa using after other member
  rw [none', all', List.nil_append]

end Behind

section Walk

variable {page : Option ι → ω → Except ε (List τ)} {process : τ → ω → ω} {ident : τ → ι}
  {limit : Nat}

/-- A walk that has ended does not depend on how long it may run. -/
theorem walk_of_le {fuel more : Nat} (enough : fuel ≤ more) {cursor : Option ι} {world : ω}
    {result : List τ × Except ε Unit × ω}
    (ends : walk page process ident limit fuel cursor world = some result) :
    walk page process ident limit more cursor world = some result := by
  induction fuel generalizing more cursor world result with
  | zero => cases ends
  | succ fuel ih =>
      obtain ⟨more, rfl⟩ : ∃ fewer, more = fewer + 1 := ⟨more - 1, by omega⟩
      rw [walk] at ends ⊢
      cases read : page cursor world with
      | error failure =>
          rw [read] at ends
          exact ends
      | ok items =>
          rw [read] at ends
          dsimp only at ends ⊢
          split_ifs at ends ⊢
          · exact ends
          · exact ends
          · obtain ⟨rest, later, same⟩ := Option.map_eq_some_iff.mp ends
            rw [ih (Nat.le_of_succ_le_succ enough) later, Option.map_some, same]

variable [LinearOrder κ]

/-- The pages of a walk are read from rows in the order of their keys, each from behind
the row of an item, and processing an item changes nothing behind it. -/
structure Keyset (page : Option ι → ω → Except ε (List τ)) (process : τ → ω → ω) (ident : τ → ι)
    (limit : Nat) (key : ρ → κ) (rows : ω → List ρ) (convert : ρ → Except ε τ) : Prop where
  positive : 0 < limit
  ascends : ∀ world, (rows world).Pairwise fun a b => key a < key b
  next : ∀ row item world, convert row = .ok item →
    page (some (ident item)) world =
      ((behind key (some (key row)) (rows world)).take limit).mapM convert
  kept : ∀ row item world, convert row = .ok item →
    behind key (some (key row)) (rows (process item world)) =
      behind key (some (key row)) (rows world)

/-- What a walk over rows comes to: it visits the rows that it read, in their order, and
it stops at the end or at rows of which one does not convert. -/
structure Walked (convert : ρ → Except ε τ) (rows : List ρ) (visited : List τ)
    (ended : Except ε Unit) (read rest : List ρ) : Prop where
  split : rows = read ++ rest
  visits : List.Forall₂ (fun row item => convert row = .ok item) read visited
  stops : (ended = .ok () ∧ rest = []) ∨
    (ended ≠ .ok () ∧ ∃ row ∈ rest, ∀ item, convert row ≠ .ok item)

variable {key : ρ → κ} {rows : ω → List ρ} {convert : ρ → Except ε τ}

/-- Processing the items of a page changes nothing behind the last of their rows. -/
theorem Keyset.kept_foldl (keyset : Keyset page process ident limit key rows convert) {bound : κ}
    {read : List ρ} {items : List τ}
    (visits : List.Forall₂ (fun row item => convert row = .ok item) read items)
    (bounded : ∀ row ∈ read, key row ≤ bound) (world : ω) :
    behind key (some bound) (rows (items.foldl (fun world item => process item world) world)) =
      behind key (some bound) (rows world) := by
  induction visits generalizing world with
  | nil => rfl
  | @cons row item others rest converts _ ih =>
      have isBefore : ∀ earlier ∈ some (key row), earlier ≤ bound := by
        rintro earlier ⟨⟩
        exact bounded row List.mem_cons_self
      rw [List.foldl_cons, ih fun other member => bounded other (List.mem_cons_of_mem _ member),
        ← behind_behind isBefore, keyset.kept row item world converts, behind_behind isBefore]

/-- A page that comes back full ends with a row, and the walk goes on behind it. -/
theorem Keyset.full_page (keyset : Keyset page process ident limit key rows convert)
    {bound : Option κ} {world : ω} {items : List τ}
    (visits : List.Forall₂ (fun row item => convert row = .ok item)
      ((behind key bound (rows world)).take limit) items)
    (isFull : ¬items.length < limit) :
    ∃ row item, items.getLast? = some item ∧ convert row = .ok item ∧
      behind key (some (key row))
          (rows (items.foldl (fun world item => process item world) world)) =
        (behind key bound (rows world)).drop limit := by
  have lengths := visits.length_eq
  have nonempty : (behind key bound (rows world)).take limit ≠ [] := by
    intro isEmpty
    rw [isEmpty, List.length_nil] at lengths
    have := keyset.positive
    omega
  obtain ⟨first, row, item, taken, isLast, converts⟩ := last_of_forall₂ visits nonempty
  refine ⟨row, item, isLast, converts, ?_⟩
  have split : behind key bound (rows world) =
      first ++ row :: (behind key bound (rows world)).drop limit := by
    conv_lhs => rw [← List.take_append_drop limit (behind key bound (rows world)), taken]
    rw [List.append_assoc, List.singleton_append]
  have ascends : (first ++ [row]).Pairwise fun a b => key a < key b := by
    rw [← taken]
    exact ((keyset.ascends world).filter _).take
  rw [List.pairwise_append] at ascends
  have bounded : ∀ other ∈ (behind key bound (rows world)).take limit, key other ≤ key row := by
    intro other member
    rw [taken, List.mem_append, List.mem_singleton] at member
    rcases member with earlier | rfl
    · exact le_of_lt (ascends.2.2 other earlier row (List.mem_singleton_self row))
    · exact le_rfl
  rw [keyset.kept_foldl visits bounded, behind_of_split (keyset.ascends world) split]

/-- A walk that may run longer than there are rows ends, and visits the rows from the
first on until one of a page does not convert. -/
theorem Keyset.walk_spec (keyset : Keyset page process ident limit key rows convert) {fuel : Nat}
    {cursor : Option ι} {bound : Option κ} {world : ω}
    (starts : page cursor world = ((behind key bound (rows world)).take limit).mapM convert)
    (enough : (behind key bound (rows world)).length < fuel) :
    ∃ visited ended last, walk page process ident limit fuel cursor world =
        some (visited, ended, last) ∧
      ∃ read rest, Walked convert (behind key bound (rows world)) visited ended read rest := by
  induction fuel generalizing cursor bound world with
  | zero => cases enough
  | succ fuel ih =>
      rw [walk, starts]
      cases converted : ((behind key bound (rows world)).take limit).mapM convert with
      | error failure =>
          refine ⟨[], .error failure, world, rfl, [], _, rfl, .nil, .inr ⟨nofun, ?_⟩⟩
          by_contra none'
          push Not at none'
          obtain ⟨items, passed⟩ := mapM_eq_ok_of_forall fun row member =>
            none' row (List.mem_of_mem_take member)
          cases converted.symm.trans passed
      | ok items =>
          have visits := mapM_eq_ok_iff.mp converted
          have lengths := visits.length_eq
          rw [List.length_take] at lengths
          have positive := keyset.positive
          by_cases isShort : items.length < limit
          · have isAll : (behind key bound (rows world)).take limit = behind key bound (rows world) :=
              List.take_of_length_le (by omega)
            rw [isAll] at visits
            refine ⟨items, .ok (), items.foldl (fun world item => process item world) world, ?_,
              behind key bound (rows world), [], (List.append_nil _).symm, visits, .inl ⟨rfl, rfl⟩⟩
            cases items with
            | nil => rfl
            | cons item others =>
                dsimp only
                rw [if_neg (by simp), if_pos isShort]
          · obtain ⟨row, item, isLast, converts, remains⟩ := keyset.full_page visits isShort
            have nonempty : items.isEmpty = false := by
              rw [List.isEmpty_eq_false_iff, ← List.length_pos_iff]
              omega
            have goesOn := keyset.next row item
              (items.foldl (fun world item => process item world) world) converts
            have fewer : (behind key (some (key row))
                (rows (items.foldl (fun world item => process item world) world))).length < fuel := by
              rw [remains, List.length_drop]
              omega
            obtain ⟨visited, ended, last, walked, read, rest, split, later, stops⟩ :=
              ih goesOn fewer
            refine ⟨items ++ visited, ended, last, ?_,
              (behind key bound (rows world)).take limit ++ read, rest, ?_,
              List.rel_append visits later, stops⟩
            · simp [nonempty, isShort, isLast, walked]
            · rw [List.append_assoc, ← split, remains, List.take_append_drop]

end Walk

end Gmv.Library.KeysetPaging
