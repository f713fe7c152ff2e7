import Mathlib
import Resilience.Target

/-!
# Reading a target off a type path

A type path is the text the compiler writes for a function: segments joined by `::`, each a
name with an optional list of generic arguments, where the owner of the last segment may be
a qualified path `<T as Trait>`. The grammar is spelt out here as data (`Ident`, `Segment`,
`TypePath`), each piece carrying what makes it well formed, and `TypePath.render` writes a
path out.

`Target.ofTypeName` reads every such path, followed by any number of closure segments, as
`TypePath.identity` says. The method is always the name of the last segment. The declaring
type is the name of the first owner segment with generic arguments, or of the last owner
segment when none has any: generics are cut off the whole owner before its last segment is
taken, so a generic segment hides the segments after it. A qualified owner is read the same
way through its self type, and a qualified self type names no type.

Read with its generics removed and its qualified owners replaced by their self types, a path
is a list of names, and it is natural to take the last two for the target (`ofNames`). That
reading gives the same method always, and the same declaring type when generic arguments
stand at most on the owner's last segment, or on the last segment of a plain self type
(`TypePath.PlainOwner`). It differs on `app::Cache<K>::get::helper`.

The proof follows the reader's passes. Closure segments are dropped and nothing else
(`dropClosures_render`). The bracket scan passes over a segment's generic arguments without
finding a split, since an argument list is balanced and an arrow closes no bracket
(`Balanced.scanSplit`); so the last split outside brackets is the one before the last
segment (`lastSplit?_render`). The owner reducer cuts generics before it takes a last segment
(`typeSegment_join`, `typeSegment_qualified`).

## Main definitions

* `Target.Balanced`: The text of a generic argument list.
* `Target.Ident`, `Target.Segment`, `Target.TypePath`: The grammar of type paths.
* `Target.TypePath.identity`: The target the reader gives a path.
* `Target.ofNames`: The target named by a list of names: the last two.

## Theorems

* `Target.lastSplit?_render`: The last split outside brackets.
* `Target.ofTypeName_render`: What the reader makes of every type path.
-/

namespace Resilience

namespace Target

/-! ### The grammar of type paths -/

/-- The name of a closure segment. -/
def closureMarker : List Char := ['{', '{', 'c', 'l', 'o', 's', 'u', 'r', 'e', '}', '}']

/-- `k` closure segments, each after its `::`. -/
def closureSuffix (k : Nat) : List Char :=
  (List.replicate k (':' :: ':' :: closureMarker)).flatten

/-- The text inside the brackets of a generic argument list: brackets nest, an arrow `->`
closes none, and every other character, colons and blanks included, stands for itself. A
`-` before the closing bracket would make it an arrow, so the text does not end in one. -/
inductive Balanced : List Char → Prop
  | nil : Balanced []
  | char {c : Char} {rest : List Char} (hc : c ∉ ['<', '>', '-']) (hrest : Balanced rest) :
      Balanced (c :: rest)
  | minus {rest : List Char} (hne : rest ≠ []) (hrest : Balanced rest) : Balanced ('-' :: rest)
  | arrow {rest : List Char} (hrest : Balanced rest) : Balanced ('-' :: '>' :: rest)
  | nested {inner rest : List Char} (hinner : Balanced inner) (hrest : Balanced rest) :
      Balanced ('<' :: inner ++ '>' :: rest)

/-- A segment name: not empty, without colons, brackets, `-` or blanks, and not the name of
a closure. -/
structure Ident where
  chars : List Char
  ne_nil : chars ≠ []
  plain : ∀ c ∈ chars, c ∉ [':', '<', '>', '-', ' ']
  ne_closure : chars ≠ closureMarker

/-- A segment: a name, with or without a list of generic arguments. -/
structure Segment where
  name : Ident
  generics : Option { args : List Char // Balanced args }

/-- A type path: segments joined by `::`, the last naming the method; or the method of a
qualified owner `<self as trait>`. -/
inductive TypePath
  | plain (owner : List Segment) (last : Segment)
  | qualified (self trait : TypePath) (last : Segment)

namespace Segment

/-- A segment as written: its name, then its generic arguments in brackets. -/
def render (s : Segment) : List Char :=
  s.name.chars ++
    (match s.generics with
      | none => []
      | some args => '<' :: args.1 ++ ['>'])

/-- Segments joined by `::`. -/
def join : List Segment → List Char
  | [] => []
  | [s] => s.render
  | s :: s' :: rest => s.render ++ ':' :: ':' :: join (s' :: rest)

/-- The declaring type the reader finds in an owner: the name of its first segment with
generic arguments, or of its last segment when none has any. -/
def typeName : List Segment → List Char
  | [] => []
  | [s] => s.name.chars
  | s :: s' :: rest => if s.generics.isSome then s.name.chars else typeName (s' :: rest)

end Segment

/-- The text of a qualified owner `<self as trait>`. -/
def qualifiedOwner (self trait : List Char) : List Char :=
  '<' :: self ++ ' ' :: 'a' :: 's' :: ' ' :: trait ++ ['>']

namespace TypePath

/-- A path as written. -/
def render : TypePath → List Char
  | plain owner last => Segment.join (owner ++ [last])
  | qualified self trait last =>
    qualifiedOwner self.render trait.render ++ ':' :: ':' :: last.render

/-- The last segment, which names the method. -/
def last : TypePath → Segment
  | plain _ last => last
  | qualified _ _ last => last

/-- The text of the owner of the last segment, when there is one. -/
def owner? : TypePath → Option (List Char)
  | plain [] _ => none
  | plain (s :: rest) _ => some (Segment.join (s :: rest))
  | qualified self trait _ => some (qualifiedOwner self.render trait.render)

/-- The declaring type the reader finds in a path standing as a self type. -/
def selfType : TypePath → List Char
  | plain owner last => Segment.typeName (owner ++ [last])
  | qualified .. => []

/-- The target the reader gives a path. -/
def identity : TypePath → Target
  | plain owner last => ⟨String.ofList (Segment.typeName owner), String.ofList last.name.chars⟩
  | qualified self _ last => ⟨String.ofList self.selfType, String.ofList last.name.chars⟩

/-- The names of a path once its generics are removed and every qualified owner is replaced
by its self type. -/
def names : TypePath → List (List Char)
  | plain owner last => (owner ++ [last]).map (·.name.chars)
  | qualified self _ last => self.names ++ [last.name.chars]

/-- Generic arguments stand at most on the last segment of the owner; a qualified owner's
self type is a plain path with generic arguments at most on its last segment. -/
def PlainOwner : TypePath → Prop
  | plain owner _ => ∀ s ∈ owner.dropLast, s.generics = none
  | qualified (plain owner _) _ _ => ∀ s ∈ owner, s.generics = none
  | qualified (qualified ..) _ _ => False

end TypePath

/-- The target named by a list of names: the last names the method, the one before it the
declaring type, and no type when there is no other. -/
def ofNames (names : List (List Char)) : Target :=
  match names.reverse with
  | [] => ⟨"", ""⟩
  | [method] => ⟨"", String.ofList method⟩
  | method :: type :: _ => ⟨String.ofList type, String.ofList method⟩

/-! ### Names and segments -/

namespace Ident

variable (name : Ident)

theorem ne_of_mem {c : Char} (hc : c ∈ name.chars) :
    c ≠ ':' ∧ c ≠ '<' ∧ c ≠ '>' ∧ c ≠ '-' ∧ c ≠ ' ' := by
  simpa using name.plain c hc

theorem colon_not_mem : ':' ∉ name.chars := fun h => (name.ne_of_mem h).1 rfl

theorem lt_not_mem : '<' ∉ name.chars := fun h => (name.ne_of_mem h).2.1 rfl

theorem space_not_mem : ' ' ∉ name.chars := fun h => (name.ne_of_mem h).2.2.2.2 rfl

/-- A name ends on a character that is neither a colon nor `-`. -/
theorem getLast?_ne : ∃ c, name.chars.getLast? = some c ∧ c ≠ ':' ∧ c ≠ '-' := by
  obtain ⟨c, hc⟩ := Option.isSome_iff_exists.mp
    (List.getLast?_isSome.mpr name.ne_nil)
  have hmem := name.ne_of_mem (List.mem_of_getLast? hc)
  exact ⟨c, hc, hmem.1, hmem.2.2.2.1⟩

end Ident

/-! ### The bracket scan -/

/-- The character the scan last saw, after `c :: tail`, from before it `prev`. -/
theorem getLast?_cons_or (c : Char) (tail : List Char) (prev : Option Char) :
    (c :: tail).getLast?.or prev = tail.getLast?.or (some c) := by
  cases h : tail.getLast? <;> simp [h, List.getLast?_cons]

/-- Characters that open, close and separate nothing are passed over. -/
theorem scanSplit_append_of_forall (d : Nat) {xs : List Char}
    (hxs : ∀ c ∈ xs, c ∉ [':', '<', '>']) (prev : Option Char) (i : Nat) (found : Option Nat)
    (rest : List Char) :
    scanSplit d prev i found (xs ++ rest) =
      scanSplit d (xs.getLast?.or prev) (i + xs.length) found rest := by
  induction xs generalizing prev i with
  | nil => simp
  | cons c xs ih =>
    have hc : c ≠ ':' ∧ c ≠ '<' ∧ c ≠ '>' := by simpa using hxs c (by simp)
    rw [List.cons_append, scanSplit, if_neg hc.2.1, if_neg (by simp [hc.2.2]),
      if_neg (by simp [hc.1]), ih (fun c hc => hxs c (by simp [hc])), getLast?_cons_or,
      List.length_cons, Nat.add_right_comm i 1, Nat.add_assoc]

namespace Balanced

/-- Generic arguments never end in `-`, so the bracket after them closes. -/
theorem getLast?_ne {g : List Char} (h : Balanced g) : g.getLast? ≠ some '-' := by
  induction h with
  | nil => simp
  | @char c rest hc _ ih =>
    cases hr : rest.getLast? <;> simp_all [List.getLast?_cons]
  | minus hne _ ih =>
    obtain ⟨c, hc⟩ := Option.isSome_iff_exists.mp (List.getLast?_isSome.mpr hne)
    simp_all [List.getLast?_cons]
  | @arrow rest _ ih => cases hr : rest.getLast? <;> simp_all [List.getLast?_cons]
  | @nested inner rest _ _ _ ih =>
    cases hr : rest.getLast? <;> simp_all [List.getLast?_append, List.getLast?_cons]

/-- The bracket scan passes over generic arguments inside an open bracket: it comes back to
the same depth, finds no split, and ends on their last character. -/
theorem scanSplit {g : List Char} (h : Balanced g) (d : Nat) (prev : Option Char) (i : Nat)
    (found : Option Nat) (after : List Char) :
    Target.scanSplit (d + 1) prev i found (g ++ after) =
      Target.scanSplit (d + 1) (g.getLast?.or prev) (i + g.length) found after := by
  induction h generalizing d prev i after with
  | nil => simp
  | @char c tail hc _ ih =>
    have hc' : c ≠ '<' ∧ c ≠ '>' ∧ c ≠ '-' := by simpa using hc
    rw [List.cons_append, Target.scanSplit, if_neg hc'.1, if_neg (by simp [hc'.2.1]),
      if_neg (by simp), ih, getLast?_cons_or, List.length_cons, Nat.add_right_comm i 1,
      Nat.add_assoc]
  | @minus tail _ _ ih =>
    rw [List.cons_append, Target.scanSplit, if_neg (by decide), if_neg (by simp),
      if_neg (by simp), ih, getLast?_cons_or, List.length_cons, Nat.add_right_comm i 1,
      Nat.add_assoc]
  | @arrow tail _ ih =>
    -- the `>` after a `-` is an arrow and leaves the depth alone
    rw [List.cons_append, List.cons_append, Target.scanSplit, if_neg (by decide),
      if_neg (by simp), if_neg (by simp), Target.scanSplit, if_neg (by decide),
      if_neg (by simp), if_neg (by simp), ih, getLast?_cons_or, getLast?_cons_or]
    congr 1
    simp only [List.length_cons]
    omega
  | @nested inner tail hinner _ ih_inner ih =>
    -- the nested list ends on a character that is not `-`, so its bracket closes
    have hlast : (inner.getLast?.or (some '<')) ≠ some '-' := by
      have hne := hinner.getLast?_ne
      cases hr : inner.getLast? <;> simp_all
    simp only [List.cons_append, List.append_assoc]
    rw [Target.scanSplit, if_pos rfl, ih_inner (d + 1), Target.scanSplit, if_neg (by decide),
      if_pos ⟨rfl, hlast⟩, Nat.add_sub_cancel, ih]
    have hindex : i + 1 + inner.length + 1 + tail.length =
        i + ('<' :: inner ++ '>' :: tail).length := by
      simp
      omega
    rw [hindex]
    cases hr : tail.getLast? <;> simp [hr, List.getLast?_cons, List.getLast?_append]

end Balanced

/-- A `::` outside brackets, after a character that is not a colon, is a split at its first
colon. -/
theorem scanSplit_sep_zero {prev : Option Char} (h : prev ≠ some ':') (i : Nat)
    (found : Option Nat) (after : List Char) :
    scanSplit 0 prev i found (':' :: ':' :: after) =
      scanSplit 0 (some ':') (i + 2) (some i) after := by
  simp [scanSplit, h]

/-- A `::` inside brackets is no split. -/
theorem scanSplit_sep_succ (d : Nat) (prev : Option Char) (i : Nat) (found : Option Nat)
    (after : List Char) :
    scanSplit (d + 1) prev i found (':' :: ':' :: after) =
      scanSplit (d + 1) (some ':') (i + 2) found after := by
  simp [scanSplit]

namespace Segment

variable (s : Segment)

/-- A segment ends on a character that is neither a colon nor `-`. -/
theorem getLast?_render : ∃ c, s.render.getLast? = some c ∧ c ≠ ':' ∧ c ≠ '-' := by
  cases hg : s.generics with
  | none => simpa [render, hg] using s.name.getLast?_ne
  | some args =>
    exact ⟨'>', by simp [render, hg, List.getLast?_cons, List.getLast?_append], by decide, by decide⟩

/-- The bracket scan passes over a segment at any depth: it finds no split in it, comes back
to the depth it started at and ends on the segment's last character. -/
theorem scanSplit (d : Nat) (prev : Option Char) (i : Nat) (found : Option Nat)
    (after : List Char) :
    Target.scanSplit d prev i found (s.render ++ after) =
      Target.scanSplit d s.render.getLast? (i + s.render.length) found after := by
  have hname : ∀ c ∈ s.name.chars, c ∉ [':', '<', '>'] := fun c h => by
    have := s.name.ne_of_mem h
    simp [this.1, this.2.1, this.2.2.1]
  obtain ⟨c, hc, -, -⟩ := s.name.getLast?_ne
  rw [render, List.append_assoc, scanSplit_append_of_forall d hname, hc, Option.some_or]
  cases hg : s.generics with
  | none => simp [hc]
  | some args =>
    -- the brackets around the arguments open a level and close it again
    have hclose : args.1.getLast?.or (some '<') ≠ some '-' := by
      have hne := args.2.getLast?_ne
      cases hr : args.1.getLast? <;> simp_all
    simp only [List.cons_append, List.append_assoc]
    rw [Target.scanSplit, if_pos rfl, args.2.scanSplit, Target.scanSplit, if_neg (by decide),
      if_pos ⟨rfl, hclose⟩, Nat.add_sub_cancel]
    simp only [List.getLast?_append, List.getLast?_cons, Option.some_or,
      Option.getD_some, List.length_append, List.length_cons, List.length_nil]
    congr 1
    omega

end Segment

/-- A text the bracket scan passes over at every depth: it comes back to the depth it started
at, on a character after which `::` is a split and `>` closes a bracket, and it finds a split
only outside brackets. -/
def Passes (text : List Char) : Prop :=
  ∀ d prev i found after, ∃ c found',
    scanSplit d prev i found (text ++ after) = scanSplit d (some c) (i + text.length) found' after ∧
      c ≠ ':' ∧ c ≠ '-' ∧ (d ≠ 0 → found' = found)

theorem Segment.passes_render (s : Segment) : Passes s.render := by
  intro d prev i found after
  obtain ⟨c, hc, hcolon, hminus⟩ := s.getLast?_render
  exact ⟨c, found, by rw [s.scanSplit, hc], hcolon, hminus, fun _ => rfl⟩

/-- Two texts the scan passes over, joined by `::`, are passed over. -/
theorem Passes.sep {A B : List Char} (hA : Passes A) (hB : Passes B) :
    Passes (A ++ ':' :: ':' :: B) := by
  intro d prev i found after
  obtain ⟨c, found₁, hscanA, hc, -, hfound₁⟩ := hA d prev i found (':' :: ':' :: (B ++ after))
  have hlength : i + (A ++ ':' :: ':' :: B).length = i + A.length + 2 + B.length := by
    simp
    omega
  rw [List.append_assoc, List.cons_append, List.cons_append, hscanA, hlength]
  cases d with
  | zero =>
    -- outside brackets the `::` is a split; the one found last is the one that counts
    rw [scanSplit_sep_zero (by simpa using hc)]
    obtain ⟨c', found', hscanB, hc', hminus', -⟩ := hB 0 (some ':') (i + A.length + 2) _ after
    exact ⟨c', found', hscanB, hc', hminus', fun h => absurd rfl h⟩
  | succ d =>
    rw [scanSplit_sep_succ]
    obtain ⟨c', found', hscanB, hc', hminus', hfound'⟩ :=
      hB (d + 1) (some ':') (i + A.length + 2) found₁ after
    refine ⟨c', found', hscanB, hc', hminus', fun _ => ?_⟩
    rw [hfound' (by omega), hfound₁ (by omega)]

/-- Segments joined by `::` are passed over. -/
theorem Segment.passes_join : ∀ {segs : List Segment}, segs ≠ [] → Passes (join segs)
  | [s], _ => s.passes_render
  | s :: s' :: rest, _ => s.passes_render.sep (passes_join (List.cons_ne_nil s' rest))

/-- A qualified owner is passed over, and the scan finds no split in it. -/
theorem passes_qualifiedOwner {self trait : List Char} (hself : Passes self)
    (htrait : Passes trait) : Passes (qualifiedOwner self trait) := by
  intro d prev i found after
  -- inside the brackets the scan keeps what it found, whatever the two paths hold
  obtain ⟨c, found₁, hscanSelf, -, -, hfound₁⟩ :=
    hself (d + 1) (some '<') (i + 1) found (' ' :: 'a' :: 's' :: ' ' :: (trait ++ '>' :: after))
  have hscanAs : scanSplit (d + 1) (some c) (i + 1 + self.length) found₁
      (' ' :: 'a' :: 's' :: ' ' :: (trait ++ '>' :: after)) =
        scanSplit (d + 1) (some ' ') (i + 1 + self.length + 4) found₁ (trait ++ '>' :: after) :=
    scanSplit_append_of_forall (d + 1)
      (show ∀ c ∈ [' ', 'a', 's', ' '], c ∉ [':', '<', '>'] by simp) (some c)
      (i + 1 + self.length) found₁ (trait ++ '>' :: after)
  obtain ⟨c', found₂, hscanTrait, -, hminus', hfound₂⟩ :=
    htrait (d + 1) (some ' ') (i + 1 + self.length + 4) found₁ ('>' :: after)
  refine ⟨'>', found, ?_, by decide, by decide, fun _ => rfl⟩
  simp only [qualifiedOwner, List.cons_append, List.append_assoc, List.nil_append]
  rw [scanSplit, if_pos rfl, hscanSelf, hscanAs, hscanTrait, scanSplit, if_neg (by decide),
    if_pos ⟨rfl, by simpa using hminus'⟩, Nat.add_sub_cancel, hfound₂ (by omega),
    hfound₁ (by omega)]
  congr 1
  simp
  omega

/-- A last segment joined to segments follows them after a `::`. -/
theorem Segment.join_concat (last : Segment) : ∀ (s : Segment) (rest : List Segment),
    join (s :: (rest ++ [last])) = join (s :: rest) ++ ':' :: ':' :: last.render
  | s, [] => rfl
  | s, s' :: rest => by
    rw [List.cons_append, join, join_concat last s' rest, join]
    simp

namespace TypePath

/-- A path is its owner, when it has one, then `::`, then its last segment. -/
theorem render_eq (p : TypePath) :
    p.render = p.owner?.elim [] (· ++ [':', ':']) ++ p.last.render := by
  cases p with
  | plain owner last =>
    cases owner with
    | nil => rfl
    | cons s rest => simp [render, owner?, TypePath.last, Segment.join_concat]
  | qualified self trait last => simp [render, owner?, TypePath.last]

/-- The bracket scan passes over every path. -/
theorem passes_render : ∀ p : TypePath, Passes p.render
  | plain _ _ => Segment.passes_join (by simp)
  | qualified self trait last =>
    (passes_qualifiedOwner (passes_render self) (passes_render trait)).sep last.passes_render

/-- The bracket scan passes over the owner of every path. -/
theorem passes_owner {p : TypePath} {owner : List Char} (h : p.owner? = some owner) :
    Passes owner := by
  cases p with
  | plain segs last =>
    cases segs with
    | nil => simp [owner?] at h
    | cons s rest =>
      simp only [owner?, Option.some.injEq] at h
      exact h ▸ Segment.passes_join (List.cons_ne_nil s rest)
  | qualified self trait last =>
    simp only [owner?, Option.some.injEq] at h
    exact h ▸ passes_qualifiedOwner self.passes_render trait.passes_render

end TypePath

/-- The last split outside brackets in a path is the `::` before its last segment, and a
path of one segment has none. -/
theorem lastSplit?_render (p : TypePath) : lastSplit? p.render = p.owner?.map List.length := by
  rw [lastSplit?, p.render_eq]
  cases howner : p.owner? with
  | none =>
    have hlast := p.last.scanSplit 0 none 0 none []
    rw [List.append_nil] at hlast
    simp only [Option.elim_none, List.nil_append, hlast, Option.map_none]
    rfl
  | some owner =>
    obtain ⟨c, found', hscan, hc, -, -⟩ :=
      TypePath.passes_owner howner 0 none 0 none (':' :: ':' :: p.last.render)
    have hlast := p.last.scanSplit 0 (some ':') (0 + owner.length + 2) (some (0 + owner.length)) []
    rw [List.append_nil] at hlast
    simp only [Option.elim_some, List.append_assoc, List.cons_append, List.nil_append]
    rw [hscan, scanSplit_sep_zero (by simpa using hc), hlast]
    simp [scanSplit]

/-! ### Closure segments -/

/-- Closure segments at the end of a path are all dropped. -/
theorem dropClosures_closureSuffix (k : Nat) (path : List Char) :
    dropClosures ((closureSuffix k).reverse ++ path) = dropClosures path := by
  induction k generalizing path with
  | zero => rfl
  | succ k ih =>
    have hsuffix : closureSuffix (k + 1) = ':' :: ':' :: closureMarker ++ closureSuffix k := rfl
    rw [hsuffix, List.reverse_append, List.append_assoc, ih]
    rfl

/-- A path back to front that does not begin with a closure segment is kept whole. -/
theorem dropClosures_of_ne {path : List Char}
    (h : ∀ rest, path ≠ (':' :: ':' :: closureMarker).reverse ++ rest) :
    dropClosures path = path := by
  unfold dropClosures
  split
  · exact absurd rfl (h _)
  · rfl

/-- Text without a colon, followed by nothing or by a colon, is the text before the first
colon. -/
theorem takeWhile_ne_colon {xs ys : List Char} (hxs : ':' ∉ xs)
    (hys : ys = [] ∨ ∃ zs, ys = ':' :: zs) : (xs ++ ys).takeWhile (· ≠ ':') = xs := by
  rw [List.takeWhile_append_of_pos (fun c hc => by simpa using ne_of_mem_of_not_mem hc hxs)]
  rcases hys with rfl | ⟨zs, rfl⟩ <;> simp

/-- A segment at the end of a path, after nothing or after a `::`, is no closure segment: it
ends in `>`, or it is a name, and no name is the closure marker. -/
theorem Segment.dropClosures_reverse (s : Segment) {pre : List Char}
    (hpre : pre = [] ∨ ∃ q, pre = q ++ [':', ':']) :
    dropClosures (pre ++ s.render).reverse = (pre ++ s.render).reverse := by
  apply dropClosures_of_ne
  intro rest heq
  rw [List.reverse_append] at heq
  cases hg : s.generics with
  | some args => simp [render, hg, closureMarker] at heq
  | none =>
    have hname : s.render = s.name.chars := by simp [render, hg]
    have hmarker : (':' :: ':' :: closureMarker).reverse ++ rest =
        closureMarker.reverse ++ ':' :: ':' :: rest := by simp
    rw [hname, hmarker] at heq
    -- both sides are their text before the first colon
    have hbefore : (s.name.chars.reverse ++ pre.reverse).takeWhile (· ≠ ':') =
        s.name.chars.reverse :=
      takeWhile_ne_colon (by simpa using s.name.colon_not_mem)
        (by rcases hpre with rfl | ⟨q, rfl⟩ <;> simp)
    have hclosure : (closureMarker.reverse ++ ':' :: ':' :: rest).takeWhile (· ≠ ':') =
        closureMarker.reverse :=
      takeWhile_ne_colon (by simp [closureMarker]) (.inr ⟨_, rfl⟩)
    rw [heq, hclosure] at hbefore
    exact s.name.ne_closure (List.reverse_inj.mp hbefore.symm)

/-- A path ends in no closure segment. -/
theorem dropClosures_render (p : TypePath) : dropClosures p.render.reverse = p.render.reverse := by
  rw [p.render_eq]
  cases p.owner? with
  | none => exact p.last.dropClosures_reverse (.inl rfl)
  | some owner => exact p.last.dropClosures_reverse (.inr ⟨owner, rfl⟩)

/-! ### The owner reducer -/

theorem stripGenerics_cons_of_ne {c : Char} (hc : c ≠ '<') (rest : List Char) :
    stripGenerics (c :: rest) = c :: stripGenerics rest :=
  List.takeWhile_cons_of_pos (by simpa using hc)

@[simp]
theorem stripGenerics_nil : stripGenerics [] = [] := rfl

@[simp]
theorem stripGenerics_lt (rest : List Char) : stripGenerics ('<' :: rest) = [] :=
  List.takeWhile_cons_of_neg (by simp)

/-- Text without `<` is kept whole by the cut of generics. -/
theorem stripGenerics_append {xs : List Char} (h : '<' ∉ xs) (ys : List Char) :
    stripGenerics (xs ++ ys) = xs ++ stripGenerics ys :=
  List.takeWhile_append_of_pos (fun c hc => by simpa using ne_of_mem_of_not_mem hc h)

theorem beforeAs_cons_of_ne {c : Char} (hc : c ≠ ' ') (rest : List Char) :
    beforeAs (c :: rest) = c :: beforeAs rest := by
  simp [beforeAs, hc]

theorem lastSegmentRev_cons_of_ne {c : Char} (hc : c ≠ ':') (rest : List Char) :
    lastSegmentRev (c :: rest) = c :: lastSegmentRev rest := by
  simp [lastSegmentRev, hc]

/-- Text without a colon is kept whole by the cut at the last `::`. -/
theorem lastSegmentRev_append {xs : List Char} (h : ':' ∉ xs) (ys : List Char) :
    lastSegmentRev (xs ++ ys) = xs ++ lastSegmentRev ys := by
  induction xs with
  | nil => rfl
  | cons c xs ih =>
    rw [List.mem_cons, not_or] at h
    rw [List.cons_append, lastSegmentRev_cons_of_ne (Ne.symm h.1), ih h.2, List.cons_append]

/-- The last segment of a text that ends in a name without a colon, after nothing or after a
`::`, is that name. -/
theorem lastSegmentRev_reverse {pre name : List Char} (hname : ':' ∉ name)
    (hpre : pre = [] ∨ ∃ q, pre = q ++ [':', ':']) :
    (lastSegmentRev (pre ++ name).reverse).reverse = name := by
  rw [List.reverse_append, lastSegmentRev_append (by simpa using hname)]
  rcases hpre with rfl | ⟨q, rfl⟩ <;> simp [lastSegmentRev]

/-- Cutting at ` as ` and then at `<` is cutting at `<` alone, when no blank comes before the
first `<`. -/
theorem stripGenerics_beforeAs {xs : List Char} (h : ' ' ∉ stripGenerics xs)
    (trait : List Char) :
    stripGenerics (beforeAs (xs ++ ' ' :: 'a' :: 's' :: ' ' :: trait)) = stripGenerics xs := by
  induction xs with
  | nil => simp [beforeAs, stripGenerics]
  | cons c xs ih =>
    by_cases hlt : c = '<'
    · subst hlt
      rw [List.cons_append, beforeAs_cons_of_ne (by decide), stripGenerics_lt, stripGenerics_lt]
    · rw [stripGenerics_cons_of_ne hlt, List.mem_cons, not_or] at h
      rw [List.cons_append, beforeAs_cons_of_ne (Ne.symm h.1), stripGenerics_cons_of_ne hlt,
        stripGenerics_cons_of_ne hlt, ih h.2]

/-- An owner that does not open with `<` is reduced to the last segment of its text before
its first `<`. -/
theorem typeSegment_of_head?_ne {owner : List Char} (h : owner.head? ≠ some '<') :
    typeSegment owner = (lastSegmentRev (stripGenerics owner).reverse).reverse := by
  unfold typeSegment
  split
  · simp at h
  · rfl

/-- A qualified owner is reduced through the text of its self type. -/
theorem typeSegment_qualifiedOwner (self trait : List Char) :
    typeSegment (qualifiedOwner self trait) =
      (lastSegmentRev
        (stripGenerics (beforeAs (self ++ ' ' :: 'a' :: 's' :: ' ' :: trait))).reverse).reverse := by
  have hqualified : qualifiedOwner self trait =
      '<' :: ((self ++ ' ' :: 'a' :: 's' :: ' ' :: trait) ++ ['>']) := by
    simp [qualifiedOwner]
  rw [hqualified]
  unfold typeSegment
  simp only [List.getLast?_concat, if_true, List.dropLast_concat]

namespace Segment

/-- The declaring type the reader finds is one of the owner's names. -/
theorem exists_of_mem_typeName {c : Char} :
    ∀ {segs : List Segment}, c ∈ typeName segs → ∃ s ∈ segs, c ∈ s.name.chars
  | [s], h => ⟨s, List.mem_singleton_self s, h⟩
  | s :: s' :: rest, h => by
    rw [typeName] at h
    split at h
    · exact ⟨s, List.mem_cons_self, h⟩
    · obtain ⟨s'', hs'', hc⟩ := exists_of_mem_typeName h
      exact ⟨s'', List.mem_cons_of_mem s hs'', hc⟩

theorem colon_not_mem_typeName (segs : List Segment) : ':' ∉ typeName segs := fun h =>
  let ⟨s, _, hs⟩ := exists_of_mem_typeName h
  s.name.colon_not_mem hs

theorem space_not_mem_typeName (segs : List Segment) : ' ' ∉ typeName segs := fun h =>
  let ⟨s, _, hs⟩ := exists_of_mem_typeName h
  s.name.space_not_mem hs

/-- The cut of generics keeps a segment's name and nothing after a generic argument list. -/
theorem stripGenerics_render_append (s : Segment) (after : List Char) :
    stripGenerics (s.render ++ after) =
      s.name.chars ++ if s.generics = none then stripGenerics after else [] := by
  cases hg : s.generics with
  | none => simp [render, hg, stripGenerics_append s.name.lt_not_mem]
  | some args => simp [render, hg, stripGenerics_append s.name.lt_not_mem]

/-- Joined segments open with the first segment's name, so not with `<`. -/
theorem head?_join_ne {segs : List Segment} (hsegs : segs ≠ []) : (join segs).head? ≠ some '<' := by
  obtain ⟨s, rest, rfl⟩ := List.exists_cons_of_ne_nil hsegs
  obtain ⟨c, cs, hname⟩ := List.exists_cons_of_ne_nil s.name.ne_nil
  have hhead : (join (s :: rest)).head? = some c := by
    cases rest <;> simp [join, render, hname]
  have hc : c ≠ '<' := (s.name.ne_of_mem (hname ▸ List.mem_cons_self)).2.1
  simpa [hhead] using hc

/-- Cut at its first `<`, an owner keeps its segments up to the first with generic arguments
and ends in the name `typeName` picks, after nothing or after a `::`. -/
theorem stripGenerics_join : ∀ segs : List Segment, ∃ pre,
    stripGenerics (join segs) = pre ++ typeName segs ∧ ' ' ∉ pre ∧
      (pre = [] ∨ ∃ q, pre = q ++ [':', ':'])
  | [] => ⟨[], rfl, by simp, .inl rfl⟩
  | [s] => ⟨[], by simpa [join, typeName] using stripGenerics_render_append s [], by simp, .inl rfl⟩
  | s :: s' :: rest => by
    rw [join, typeName, stripGenerics_render_append]
    cases hg : s.generics with
    | some args => exact ⟨[], by simp, by simp, .inl rfl⟩
    | none =>
      -- a segment without generics is kept with its `::`, and the cut goes on after it
      obtain ⟨pre, hstrip, hspace, hpre⟩ := stripGenerics_join (s' :: rest)
      refine ⟨s.name.chars ++ ':' :: ':' :: pre, ?_, ?_, .inr ?_⟩
      · rw [if_pos rfl, stripGenerics_cons_of_ne (by decide), stripGenerics_cons_of_ne (by decide),
          hstrip]
        simp
      · simp [s.name.space_not_mem, hspace]
      · rcases hpre with rfl | ⟨q, rfl⟩
        · exact ⟨s.name.chars, by simp⟩
        · exact ⟨s.name.chars ++ ':' :: ':' :: q, by simp⟩

/-- The reducer reads the declaring type of a plain owner off its segments. -/
theorem typeSegment_join {segs : List Segment} (hsegs : segs ≠ []) :
    typeSegment (join segs) = typeName segs := by
  obtain ⟨pre, hstrip, -, hpre⟩ := stripGenerics_join segs
  rw [typeSegment_of_head?_ne (head?_join_ne hsegs), hstrip,
    lastSegmentRev_reverse (colon_not_mem_typeName segs) hpre]

end Segment

/-- The reducer reads the declaring type of a qualified owner off its self type, and a
qualified self type names none. -/
theorem typeSegment_qualified (self trait : TypePath) :
    typeSegment (qualifiedOwner self.render trait.render) = self.selfType := by
  rw [typeSegment_qualifiedOwner]
  cases self with
  | plain owner last =>
    obtain ⟨pre, hstrip, hspace, hpre⟩ := Segment.stripGenerics_join (owner ++ [last])
    have hblank : ' ' ∉ stripGenerics (Segment.join (owner ++ [last])) := by
      simp [hstrip, hspace, Segment.space_not_mem_typeName]
    rw [TypePath.render, stripGenerics_beforeAs hblank, hstrip,
      lastSegmentRev_reverse (Segment.colon_not_mem_typeName _) hpre]
    rfl
  | qualified self' trait' last =>
    -- a qualified self type opens with `<`, where the cut of generics leaves nothing
    simp [TypePath.render, qualifiedOwner, beforeAs_cons_of_ne, lastSegmentRev, TypePath.selfType]

/-! ### What the reader makes of a type path -/

/-- Reading a path with closure segments after it: the type the reducer finds in its owner,
none without an owner, and the name of its last segment. -/
theorem ofTypeName_render_eq (p : TypePath) (k : Nat) :
    ofTypeName (String.ofList (p.render ++ closureSuffix k)) =
      ⟨String.ofList ((p.owner?.map typeSegment).getD []), String.ofList p.last.name.chars⟩ := by
  have hpath : (dropClosures (String.ofList (p.render ++ closureSuffix k)).toList.reverse).reverse =
      p.render := by
    rw [String.toList_ofList, List.reverse_append, dropClosures_closureSuffix, dropClosures_render,
      List.reverse_reverse]
  have hmethod : stripGenerics p.last.render = p.last.name.chars := by
    simpa using Segment.stripGenerics_render_append p.last []
  simp only [ofTypeName, hpath, lastSplit?_render]
  -- with an owner, the split falls on the `::` after it
  cases howner : p.owner? <;> simp [p.render_eq, howner, hmethod]

namespace TypePath

/-- The identity of a path is the type the reducer finds in its owner and the name of its last
segment. -/
theorem identity_eq (p : TypePath) :
    p.identity =
      ⟨String.ofList ((p.owner?.map typeSegment).getD []), String.ofList p.last.name.chars⟩ := by
  cases p with
  | plain owner last =>
    cases owner with
    | nil => rfl
    | cons s rest => simp [identity, owner?, TypePath.last, Segment.typeSegment_join]
  | qualified self trait last => simp [identity, owner?, TypePath.last, typeSegment_qualified]

end TypePath

/-! ### The reading by names -/

/-- By names, the method is the last name. -/
theorem ofNames_concat_method (names : List (List Char)) (method : List Char) :
    (ofNames (names ++ [method])).method = String.ofList method := by
  rw [ofNames, List.reverse_concat]
  cases names.reverse <;> rfl

/-- By names, the declaring type is the name before the last. -/
theorem ofNames_concat_two (names : List (List Char)) (type method : List Char) :
    ofNames (names ++ [type, method]) = ⟨String.ofList type, String.ofList method⟩ := by
  simp [ofNames]

/-- Segments without generic arguments hide no segment from the reducer. -/
theorem Segment.typeName_concat_of_none :
    ∀ {init : List Segment}, (∀ s ∈ init, s.generics = none) → ∀ last : Segment,
      typeName (init ++ [last]) = last.name.chars
  | [], _, _ => rfl
  | s :: rest, h, last => by
    rw [List.cons_append]
    cases rest with
    | nil => simp [typeName, h s List.mem_cons_self]
    | cons s' rest =>
      rw [List.cons_append, typeName, if_neg (by simp [h s List.mem_cons_self])]
      exact typeName_concat_of_none (fun x hx => h x (List.mem_cons_of_mem s hx)) last

namespace TypePath

/-- A path names its last segment's name as the method, also by names. -/
theorem identity_method (p : TypePath) : p.identity.method = (ofNames p.names).method := by
  cases p with
  | plain owner last =>
    rw [names, List.map_append, List.map_singleton, ofNames_concat_method]
    rfl
  | qualified self trait last =>
    rw [names, ofNames_concat_method]
    rfl

/-- A path with generic arguments at most on the last segment of its owner, or of its plain
self type, names the same target by names. -/
theorem identity_eq_ofNames {p : TypePath} (h : p.PlainOwner) : p.identity = ofNames p.names := by
  cases p with
  | plain owner last =>
    rcases List.eq_nil_or_concat owner with rfl | ⟨init, o, rfl⟩
    · rfl
    · have hinit : ∀ s ∈ init, s.generics = none := by simpa [PlainOwner] using h
      simp [identity, names, Segment.typeName_concat_of_none hinit, ofNames_concat_two]
  | qualified self trait last =>
    cases self with
    | plain owner last' =>
      simp [identity, selfType, names, Segment.typeName_concat_of_none h, ofNames_concat_two]
    | qualified _ _ _ => exact h.elim

end TypePath

/-- Method identities of type paths. Every type path, followed by any number of closure
segments, is read as the path's identity: the method is the last segment's name, and the
declaring type is the name of the first owner segment with generic arguments, or of the last
owner segment when none has any, read through the self type of a qualified owner. The method
is always the one the path names once its generics are removed and its qualified owners are
replaced by their self types; the declaring type is that path's too when generic arguments
stand at most on the last segment of the owner, or of a plain self type. -/
theorem ofTypeName_render (p : TypePath) (k : Nat) :
    ofTypeName (String.ofList (p.render ++ closureSuffix k)) = p.identity ∧
      p.identity.method = (ofNames p.names).method ∧
      (p.PlainOwner → p.identity = ofNames p.names) :=
  ⟨(ofTypeName_render_eq p k).trans p.identity_eq.symm, p.identity_method,
    TypePath.identity_eq_ofNames⟩

/-- On `app::Cache<K>::get::helper` the reader names `Cache`, the first owner segment with
generic arguments, where the path without generics names `get`. -/
theorem ofTypeName_generic_owner :
    ofTypeName "app::Cache<K>::get::helper" = ⟨"Cache", "helper"⟩ ∧
      ofNames [['a', 'p', 'p'], ['C', 'a', 'c', 'h', 'e'], ['g', 'e', 't'],
        ['h', 'e', 'l', 'p', 'e', 'r']] = ⟨"get", "helper"⟩ := by
  have hread := (ofTypeName_render
    (.plain
      [⟨⟨['a', 'p', 'p'], by simp, by simp, by simp [closureMarker]⟩, none⟩,
        ⟨⟨['C', 'a', 'c', 'h', 'e'], by simp, by simp, by simp [closureMarker]⟩,
          some ⟨['K'], .char (by simp) .nil⟩⟩,
        ⟨⟨['g', 'e', 't'], by simp, by simp, by simp [closureMarker]⟩, none⟩]
      ⟨⟨['h', 'e', 'l', 'p', 'e', 'r'], by simp, by simp, by simp [closureMarker]⟩, none⟩) 0).1
  exact ⟨hread, rfl⟩

example : ofTypeName "<app::Repo<u8> as app::Load>::load" = ⟨"Repo", "load"⟩ := by decide

end Target

end Resilience
