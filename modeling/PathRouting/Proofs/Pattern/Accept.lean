import PathRouting.Proofs.Config
import PathRouting.Proofs.Pattern.Parts
import PathRouting.Proofs.Pattern.RestCapture

/-!
# Patterns without constraints are accepted

A text written as separators and segments without constraints is cut back into them, and each is
placed as the element it stands for.  Names cannot clash and captures of the rest stand last, so
only a mixed segment can be refused, when its regular expression takes too much room.

## Main definitions

* `Block.takesSeparator`, `Block.joined` — the blocks that take in a separator before them, and what
  they are then.

## Main results

* `tokens_textOf` — the text of blocks is cut into them.
* `Chain.place_block`, `Chain.place_joined` — each block is placed as its element.
* `parse_error_of_countP` — a segment with more wildcards and captures than there is room for is
  refused.
* `parse_textOf` — the text parses to the elements of the blocks, or else is refused at the first
  segment whose regular expression is too large.
-/

namespace PathRouting

variable {o : PatternOptions} {blocks : List Block} {block : Block}

/-! ### Cutting -/

section Cutting

variable {separator : Char}

/-- Inside of a capture only braces and colons have a meaning. -/
theorem passes_inCapture {s : List Char} (hs : ∀ c ∈ s, c ≠ '{' ∧ c ≠ '}' ∧ c ≠ ':') :
    Braces.Passes separator ⟨1, false, false⟩ s ⟨1, false, false⟩ := by
  induction s with
  | nil => exact .nil _
  | cons c s ih =>
    obtain ⟨hc, hs⟩ := List.forall_mem_cons.mp hs
    exact .cons (step_capture hc) (by simp [Braces.cutsAt]) (ih hs)

theorem passes_capture {s : List Char} (hs : ∀ c ∈ s, c ≠ '{' ∧ c ≠ '}' ∧ c ≠ ':') :
    Braces.Passes separator ⟨1, false, false⟩ (s ++ ['}']) .outside :=
  (passes_inCapture hs).append (.cons rfl (by simp [Braces.cutsAt]) (.nil _))

/-- A capture is passed without a cut. -/
theorem passes_braced {s : List Char} (hs : ∀ c ∈ s, c ≠ '{' ∧ c ≠ '}' ∧ c ≠ ':') :
    Braces.outside.Passes separator ('{' :: s ++ ['}']) .outside :=
  .cons Braces.step_outside_open (by simp [Braces.cutsAt]) (passes_capture hs)

/-- A capture of the rest is passed without a cut. -/
theorem passes_restCapture {name : List Char} (h : IsName name) :
    Braces.outside.Passes separator (restCapture name) .outside :=
  passes_braced h.ne_brace_star

theorem passes_part (hvalid : o.validate = .ok o) {part : Part}
    (h : part.IsProper o.separator) : Braces.outside.Passes o.separator part.text .outside := by
  have hreserved : ∀ c ∈ reservedChars, c ≠ o.separator := by
    rintro c hc rfl
    exact notMem_reservedChars hvalid hc
  cases part with
  | char c =>
    obtain ⟨hc, hsep⟩ := h
    simp only [List.mem_cons, not_or] at hc
    exact .outside hc.1 hc.2.1 hsep
  | star => exact .outside (by decide) (by decide) (hreserved '*' (by decide))
  | question => exact .outside (by decide) (by decide) (hreserved '?' (by decide))
  | capture name => exact passes_braced (IsName.ne_brace h)

theorem passes_parts (hvalid : o.validate = .ok o) {parts : List Part}
    (h : ∀ part ∈ parts, part.IsProper o.separator) :
    Braces.outside.Passes o.separator (textOf parts) .outside := by
  induction parts with
  | nil => exact .nil _
  | cons part parts ih =>
    obtain ⟨hpart, hparts⟩ := List.forall_mem_cons.mp h
    rw [textOf_cons]
    exact (passes_part hvalid hpart).append (ih hparts)

theorem isPassed_run (hvalid : o.validate = .ok o) (h : block.IsProper o.separator) :
    block.run.IsPassed o.separator := by
  cases block with
  | separator =>
    obtain ⟨hopen, hclose, -⟩ := separator_ne hvalid
    exact ⟨hopen, hclose⟩
  | segment parts =>
    exact ⟨mt textOf_eq_nil.mp (IsSegment.ne_nil h), passes_parts hvalid (IsSegment.proper h)⟩
  | rest name => exact ⟨List.cons_ne_nil _ _, passes_restCapture h⟩

/-- **The text of blocks is cut into them.** -/
theorem tokens_textOf (hvalid : o.validate = .ok o) (h : IsWritten o.separator blocks) :
    tokens o.separator (Block.textOf o.separator blocks)
      = .ok (Run.tokens 0 (blocks.map Block.run)) := by
  have hpassed : ∀ r ∈ blocks.map Block.run, r.IsPassed o.separator := by
    intro r hr
    obtain ⟨block, hblock, rfl⟩ := List.mem_map.mp hr
    exact isPassed_run hvalid (h.proper block hblock)
  have hchain : (blocks.map Block.run).IsChain fun r r' => r = .separator ∨ r' = .separator := by
    rw [List.isChain_map]
    refine h.apart.imp fun a b hab => ?_
    rcases hab with rfl | rfl
    · exact .inl rfl
    · exact .inr rfl
  exact tokensFrom_runs hpassed hchain 0

end Cutting

/-! ### Captures of the rest -/

/-- Only a brace with a `*` after it begins a capture of the rest. -/
theorem findRest_cons {c : Char} {s : List Char} (hc : c = '{' → s.head? ≠ some '*') :
    findRest (c :: s) = (findRest s).map (· + 1) := by
  rw [findRest.eq_def]
  split
  · next heq =>
    obtain ⟨rfl, rfl⟩ := List.cons.inj heq
    exact absurd rfl (hc rfl)
  · next heq =>
    obtain ⟨-, rfl⟩ := List.cons.inj heq
    rfl
  · next heq => simp at heq

theorem findRest_append {s : List Char} (hs : '{' ∉ s) (t : List Char) :
    findRest (s ++ t) = (findRest t).map (· + s.length) := by
  induction s with
  | nil => exact (Option.map_id' ..).symm
  | cons c s ih =>
    obtain ⟨hc, hs⟩ := not_or.mp (mt List.mem_cons.mpr hs)
    rw [List.cons_append, findRest_cons fun heq => absurd heq.symm hc, ih hs, Option.map_map]
    rfl

theorem findRest_cons_eq_none {c : Char} {s : List Char} (hs : findRest s = none)
    (hc : c = '{' → s.head? ≠ some '*') : findRest (c :: s) = none := by
  rw [findRest_cons hc, hs, Option.map_none]

theorem findRest_append_eq_none {s t : List Char} (hs : '{' ∉ s) (ht : findRest t = none) :
    findRest (s ++ t) = none := by
  rw [findRest_append hs, ht, Option.map_none]

/-- A segment written of parts captures no rest: no name starts with `*`. -/
theorem findRest_textOf {separator : Char} {parts : List Part}
    (h : ∀ part ∈ parts, part.IsProper separator) : findRest (textOf parts) = none := by
  induction parts with
  | nil => rfl
  | cons part parts ih =>
    obtain ⟨hpart, hparts⟩ := List.forall_mem_cons.mp h
    rw [textOf_cons]
    cases part with
    | char c =>
      have hc : c ≠ '{' := fun heq => hpart.1 (heq ▸ List.mem_cons_self)
      exact findRest_cons_eq_none (ih hparts) fun heq => absurd heq hc
    | star => exact findRest_append_eq_none (by simp [Part.text]) (ih hparts)
    | question => exact findRest_append_eq_none (by simp [Part.text]) (ih hparts)
    | capture name =>
      have hclosed : findRest (name ++ '}' :: textOf parts) = none :=
        findRest_append_eq_none (IsName.notMem hpart (by decide))
          (findRest_cons_eq_none (ih hparts) (by simp))
      have htext : (Part.capture name).text ++ textOf parts
          = '{' :: (name ++ '}' :: textOf parts) := by simp [Part.text]
      rw [htext]
      refine findRest_cons_eq_none hclosed fun _ hhead => ?_
      have hname : IsName name := hpart
      cases name with
      | nil => exact hname
      | cons c name =>
        obtain rfl : c = '*' := by simpa using hhead
        exact absurd (hname.chars '*' List.mem_cons_self) (by decide)

/-! ### Placing -/

namespace Block

/-- Whether a block at the end takes in the separator before it. -/
def takesSeparator : Block → Bool
  | segment [.star, .star] => true
  | rest _ => true
  | _ => false

/-- The element for such a block with the separator it takes in. -/
def joined (sep : Char) : Block → ElementKind
  | rest name => .captureRest name (some sep)
  | _ => .rest sep

theorem takesSeparator_cases (h : block.takesSeparator = true) :
    block = .segment [.star, .star] ∨ ∃ name, block = .rest name := by
  unfold takesSeparator at h
  split at h
  · exact .inl rfl
  · next name => exact .inr ⟨name, rfl⟩
  · simp at h

/-- The last block with the separator before it. -/
theorem chain_joined (h : block.takesSeparator = true) :
    chain o [.separator, block] = [block.joined o.separator] := by
  rcases takesSeparator_cases h with rfl | ⟨name, rfl⟩ <;> rfl

/-- A segment of its own takes one segment, apart from `**`. -/
theorem segmentKind_cases (o : PatternOptions) (parts : List Part) :
    parts = [.star, .star] ∨ segmentKind o parts = .wildcard ∨
      (segmentKind o parts).takes = true := by
  unfold segmentKind
  split
  · exact .inr (.inl rfl)
  · exact .inl rfl
  · exact .inr (.inr rfl)
  · refine .inr (.inr ?_)
    split
    · rfl
    · split <;> rfl

theorem eq_separator_of_kind (h : block.kind o = .separator) : block = .separator := by
  cases block with
  | separator => rfl
  | segment parts =>
    have hkind : segmentKind o parts = .separator := h
    rcases segmentKind_cases o parts with rfl | hcases
    · simp [segmentKind] at hkind
    · simp [hkind, ElementKind.takes] at hcases
  | rest name => simp [kind] at h

/-- By themselves only these blocks are `**` or a capture of the rest. -/
theorem takesSeparator_of_kind
    (h : block.kind o = .segments ∨ ∃ name sep, block.kind o = .captureRest name sep) :
    block.takesSeparator = true := by
  cases block with
  | separator => simp [kind] at h
  | segment parts =>
    rcases segmentKind_cases o parts with rfl | hcases
    · rfl
    · rcases h with hkind | ⟨name, sep, hkind⟩ <;>
        simp [show segmentKind o parts = _ from hkind, ElementKind.takes] at hcases
  | rest name => rfl

/-- Any other block stands for an element of its own. -/
theorem chain_cons (h : ∀ last, block = .separator → blocks = [last] →
    last.takesSeparator = false) : chain o (block :: blocks) = block.kind o :: chain o blocks := by
  have hnot : ∀ k, block.kind o = .separator → blocks.map (kind o) = [k] →
      ¬(k = .segments ∨ ∃ name sep, k = .captureRest name sep) := by
    rintro _ hkind hmap hjoined
    obtain ⟨last, rfl, rfl⟩ := List.map_eq_singleton_iff.mp hmap
    have htakes := takesSeparator_of_kind hjoined
    rw [h last (eq_separator_of_kind hkind) rfl] at htakes
    exact Bool.false_ne_true htakes
  rw [chain, List.map_cons, absorb]
  · rfl
  · exact fun hkind hmap => hnot _ hkind hmap (.inl rfl)
  · exact fun name sep hkind hmap => hnot _ hkind hmap (.inr ⟨name, sep, rfl⟩)

end Block

namespace Chain

variable {ch : Chain} {isLast : Bool} {position : Nat}

/-- An element that takes in a separator before it, where there is none. -/
theorem pushWithSeparator_eq_push (h : ¬ch.EndsWithSeparator) (kind : Bool → ElementKind) :
    ch.pushWithSeparator position kind = ch.push position (kind false) := by
  rcases ch.pushWithSeparator_cases position kind with ⟨q, before, hq, -⟩ | ⟨-, heq⟩
  · exact absurd ⟨q, before, hq⟩ h
  · exact heq

/-- A capture of the rest adds its name. -/
theorem place_restCapture {name : List Char} (hopen : ch.isClosed = false) (hname : IsName name)
    (hfresh : name ∉ ch.names) : place o isLast ch (.segment position (restCapture name))
      = .ok (({ ch with names := name :: ch.names } : Chain).pushWithSeparator position
          fun taken => .captureRest name (if taken then some o.separator else none)) := by
  have hsegments : restCapture name ≠ ['*', '*'] := by simp [restCapture]
  have hadd : addName ch.names position name = .ok (name :: ch.names) :=
    addName_ok.mpr ⟨hfresh, rfl⟩
  have hfound : findRest (restCapture name) = some 0 := rfl
  unfold place
  simp only [hopen, hsegments, hfound, Bool.false_eq_true, if_false]
  rw [readRestName_restCapture hname]
  show (addName ch.names position name >>= _) = _
  rw [hadd]
  rfl

/-- The chain with the element of one more block. -/
def pushBlock (o : PatternOptions) (ch : Chain) (position : Nat) (block : Block) : Chain :=
  ⟨⟨position, block.kind o⟩ :: ch.elements, block.names.reverse ++ ch.names⟩

/-- **A block is placed as its element**, unless it takes in the separator before it. -/
theorem place_block (hopen : ch.isClosed = false) (hproper : block.IsProper o.separator)
    (hfresh : (block.names ++ ch.names).Nodup) (hfits : (block.kind o).fits = true)
    (hjoined : block.takesSeparator = true → isLast = true → ¬ch.EndsWithSeparator)
    (hlast : ∀ name, block = .rest name → isLast = true) :
    place o isLast ch (block.run.token position) = .ok (ch.pushBlock o position block) := by
  cases block with
  | separator => exact place_separator hopen
  | segment parts =>
    by_cases hparts : parts = [.star, .star]
    · subst hparts
      cases isLast with
      | false => exact place_segments hopen
      | true =>
        show place o true ch (.segment position ['*', '*']) = _
        unfold place
        simp only [hopen, if_true, Bool.false_eq_true, if_false]
        rw [pushWithSeparator_eq_push (hjoined rfl rfl)]
        rfl
    · show place o isLast ch (.segment position (textOf parts)) = _
      rw [place_segment hopen (mt (textOf_eq_segments hproper.proper).mp hparts)
        (findRest_textOf hproper.proper), readSegment_textOf hproper hparts hfresh, readAs]
      have hfits : (segmentKind o parts).fits = true := hfits
      rw [if_pos hfits]
      rfl
  | rest name =>
    have hnew : name ∉ ch.names := (List.nodup_cons.mp hfresh).1
    show place o isLast ch (.segment position (restCapture name)) = _
    rw [place_restCapture hopen hproper hnew, pushWithSeparator_eq_push]
    · rfl
    · exact hjoined rfl (hlast name rfl)

/-- **At the end** `**` and captures of the rest take in the separator before them. -/
theorem place_joined {q : Nat} {before : List PatternElement}
    (helements : ch.elements = ⟨q, .separator⟩ :: before) (hproper : block.IsProper o.separator)
    (hfresh : (block.names ++ ch.names).Nodup) (htakes : block.takesSeparator = true) :
    place o true ch (block.run.token position)
      = .ok ⟨⟨q, block.joined o.separator⟩ :: before, block.names.reverse ++ ch.names⟩ := by
  have hopen : ch.isClosed = false := by rw [isClosed, helements]
  obtain ⟨elements, names⟩ := ch
  subst helements
  rcases Block.takesSeparator_cases htakes with rfl | ⟨name, rfl⟩
  · rfl
  · have hnew : name ∉ names := (List.nodup_cons.mp hfresh).1
    exact place_restCapture hopen hproper hnew

/-! ### Placing all blocks -/

/-- Blocks that may come next: a capture of the rest comes last, and no name is given twice. -/
structure Ready (o : PatternOptions) (ch : Chain) (blocks : List Block) : Prop where
  /-- More may come. -/
  isOpen : blocks ≠ [] → ch.isClosed = false
  /-- All blocks may stand in a pattern. -/
  proper : ∀ block ∈ blocks, block.IsProper o.separator
  /-- Only the last block captures the rest. -/
  restLast : ∀ name, .rest name ∉ blocks.dropLast
  /-- The names are new and differ. -/
  fresh : (blocks.flatMap Block.names ++ ch.names).Nodup

/-- A capture of the rest has nothing after it. -/
theorem Ready.eq_nil {name : List Char} (h : ch.Ready o (.rest name :: blocks)) : blocks = [] := by
  by_contra hne
  have hnot := h.restLast name
  rw [List.dropLast_cons_of_ne_nil hne] at hnot
  exact hnot List.mem_cons_self

theorem Ready.head_fresh (h : ch.Ready o (block :: blocks)) :
    (block.names ++ ch.names).Nodup := by
  have hfresh := h.fresh
  rw [List.flatMap_cons, List.append_assoc] at hfresh
  exact hfresh.sublist ((List.sublist_append_right _ _).append_left _)

/-- The other blocks may come after the first one. -/
theorem Ready.step (h : ch.Ready o (block :: blocks)) (position : Nat) :
    Ready o (ch.pushBlock o position block) blocks where
  isOpen := by
    intro hne
    show (push ⟨ch.elements, block.names.reverse ++ ch.names⟩ position (block.kind o)).isClosed
      = false
    refine isClosed_push ?_
    cases block with
    | separator => rfl
    | segment parts =>
      show (segmentKind o parts).isCatchAll = false
      rcases Block.segmentKind_cases o parts with rfl | hwildcard | htakes
      · rfl
      · rw [hwildcard]
        rfl
      · exact ElementKind.isCatchAll_of_takes htakes
    | rest name => exact absurd h.eq_nil hne
  proper := (List.forall_mem_cons.mp h.proper).2
  restLast := by
    intro name hmem
    have hne : blocks ≠ [] := by
      rintro rfl
      simp at hmem
    have hnot := h.restLast name
    rw [List.dropLast_cons_of_ne_nil hne] at hnot
    exact hnot (List.mem_cons_of_mem block hmem)
  fresh := by
    have hperm : (block.names ++ blocks.flatMap Block.names).Perm
        (blocks.flatMap Block.names ++ block.names.reverse) :=
      List.perm_append_comm.trans ((List.reverse_perm _).symm.append_left _)
    have hfresh := h.fresh
    rw [List.flatMap_cons] at hfresh
    show (blocks.flatMap Block.names ++ (block.names.reverse ++ ch.names)).Nodup
    rw [← List.append_assoc]
    exact (hperm.append_right _).nodup hfresh

/-- A block that more blocks may follow is placed as its element. -/
theorem Ready.place_head (h : ch.Ready o (block :: blocks)) (hfits : (block.kind o).fits = true)
    (hjoined : ∀ last, block :: blocks = [last] → last.takesSeparator = true →
      ¬ch.EndsWithSeparator) (position : Nat) :
    place o (Run.tokens (position + block.run.length) (blocks.map Block.run)).isEmpty ch
        (block.run.token position)
      = .ok (ch.pushBlock o position block) := by
  have hempty : (Run.tokens (position + block.run.length) (blocks.map Block.run)).isEmpty
      = blocks.isEmpty := by cases blocks <;> rfl
  rw [hempty]
  refine place_block (h.isOpen (by simp)) (h.proper _ List.mem_cons_self) h.head_fresh hfits ?_ ?_
  · intro htakes hlast
    obtain rfl := List.isEmpty_iff.mp hlast
    exact hjoined block rfl htakes
  · rintro name rfl
    rw [h.eq_nil]
    rfl

/-- A separator and a block that takes it in are one element. -/
theorem Ready.placeAll_joined {last : Block} (h : ch.Ready o [.separator, last])
    (htakes : last.takesSeparator = true) (position : Nat) :
    placeAll o ch (Run.tokens position ([.separator, last].map Block.run))
      = .ok ⟨⟨position, last.joined o.separator⟩ :: ch.elements,
          last.names.reverse ++ ch.names⟩ := by
  have hnext := h.step position
  have hlast : place o true (ch.push position .separator) (last.run.token (position + 1))
      = .ok ⟨⟨position, last.joined o.separator⟩ :: ch.elements, last.names.reverse ++ ch.names⟩ :=
    place_joined rfl (hnext.proper last List.mem_cons_self) hnext.head_fresh htakes
  show (place o false ch (.separator position) >>= fun ch₁ =>
    place o true ch₁ (last.run.token (position + 1)) >>= pure) = _
  rw [place_separator (h.isOpen (by simp))]
  show (place o true (ch.push position .separator) _ >>= pure) = _
  rw [hlast]
  rfl

/-- **All blocks are placed as their elements.** -/
theorem placeAll_blocks (h : ch.Ready o blocks)
    (hfits : ∀ block ∈ blocks, (block.kind o).fits = true)
    (hjoined : ∀ last, blocks = [last] → last.takesSeparator = true → ¬ch.EndsWithSeparator)
    (position : Nat) :
    ∃ ch', placeAll o ch (Run.tokens position (blocks.map Block.run)) = .ok ch' ∧
      ch'.elements.map (·.kind)
        = (Block.chain o blocks).reverse ++ ch.elements.map (·.kind) := by
  induction blocks generalizing ch position with
  | nil => exact ⟨ch, rfl, rfl⟩
  | cons block blocks ih =>
    by_cases hpair : ∃ last, block = .separator ∧ blocks = [last] ∧ last.takesSeparator = true
    · obtain ⟨last, rfl, rfl, htakes⟩ := hpair
      refine ⟨_, h.placeAll_joined htakes position, ?_⟩
      rw [Block.chain_joined htakes]
      rfl
    · obtain ⟨hblock, hblocks⟩ := List.forall_mem_cons.mp hfits
      have hcons : Block.chain o (block :: blocks) = block.kind o :: Block.chain o blocks := by
        refine Block.chain_cons fun last hseparator hlast => ?_
        by_contra htakes
        exact hpair ⟨last, hseparator, hlast, by simpa using htakes⟩
      have hnot : ∀ last, blocks = [last] → last.takesSeparator = true →
          ¬(ch.pushBlock o position block).EndsWithSeparator := by
        rintro last hlast htakes ⟨p, before, hbefore⟩
        have hkind := congrArg PatternElement.kind (List.cons.inj hbefore).1
        exact hpair ⟨last, Block.eq_separator_of_kind hkind, hlast, htakes⟩
      obtain ⟨ch', hch', hkinds⟩ := ih (h.step position) hblocks hnot (position + block.run.length)
      refine ⟨ch', ?_, ?_⟩
      · rw [List.map_cons, Run.tokens, placeAll, h.place_head hblock hjoined position]
        exact hch'
      · rw [hkinds, hcons, List.reverse_cons, List.append_assoc]
        rfl

/-- **The first segment whose expression is too large is refused.** -/
theorem placeAll_blocks_error {before after : List Block} {parts : List Part}
    (h : ch.Ready o (before ++ .segment parts :: after))
    (hfits : ∀ block ∈ before, (block.kind o).fits = true)
    (hlarge : (segmentKind o parts).fits = false) (position : Nat) :
    placeAll o ch (Run.tokens position ((before ++ .segment parts :: after).map Block.run))
      = .error (.malformedConstraint, position + (Block.textOf o.separator before).length) := by
  induction before generalizing ch position with
  | nil =>
    have hproper : IsSegment o.separator parts := h.proper _ List.mem_cons_self
    have hsegments : parts ≠ [.star, .star] := by
      rintro rfl
      exact absurd hlarge (by simp [segmentKind, ElementKind.fits])
    rw [List.nil_append, List.map_cons, Run.tokens, placeAll]
    show (place o _ ch (.segment position (textOf parts)) >>= _) = _
    rw [place_segment (h.isOpen (by simp)) (mt (textOf_eq_segments hproper.proper).mp hsegments)
      (findRest_textOf hproper.proper), readSegment_textOf hproper hsegments h.head_fresh, readAs,
      hlarge]
    rfl
  | cons block before ih =>
    obtain ⟨hblock, hbefore⟩ := List.forall_mem_cons.mp hfits
    have hlength : position + (Block.textOf o.separator (block :: before)).length
        = position + block.run.length + (Block.textOf o.separator before).length := by
      have hraw : (block.run.raw o.separator).length = block.run.length := by
        cases block <;> rfl
      rw [Block.textOf, List.map_cons, List.flatMap_cons, List.length_append, hraw,
        Nat.add_assoc]
      rfl
    rw [List.cons_append] at h
    have hnext := ih (h.step position) hbefore (position + block.run.length)
    rw [hlength, List.cons_append, List.map_cons, Run.tokens, placeAll,
      h.place_head hblock (by simp) position]
    exact hnext

end Chain

/-! ### Parsing -/

/-- The blocks of a pattern may come into the empty chain. -/
theorem IsWritten.ready (h : IsWritten o.separator blocks) : Chain.Ready o ⟨[], []⟩ blocks where
  isOpen := fun _ => rfl
  proper := h.proper
  restLast := h.restLast
  fresh := by
    rw [List.append_nil]
    exact h.names

/-- A segment of wildcards. -/
theorem isWritten_wildcards (separator : Char) (n : Nat) :
    IsWritten separator [.segment (.star :: List.replicate n .question)] := by
  have hplain : ∀ part ∈ Part.star :: List.replicate n .question,
      part = .star ∨ part = .question := by
    intro part hpart
    rcases List.mem_cons.mp hpart with rfl | hpart
    · exact .inl rfl
    · exact .inr (List.eq_of_mem_replicate hpart)
  have hproper : ∀ part ∈ Part.star :: List.replicate n .question, part.IsProper separator := by
    intro part hpart
    rcases hplain part hpart with rfl | rfl <;> trivial
  have hapart : (Part.star :: List.replicate n .question).Pairwise
      fun a b => a.isCapture = false ∨ b.isCapture = false := by
    refine List.pairwise_of_forall_mem_list fun part hpart _ _ => .inl ?_
    rcases hplain part hpart with rfl | rfl <;> rfl
  have hnames : namesOfParts (.star :: List.replicate n .question) = [] := by
    refine List.flatMap_eq_nil_iff.mpr fun part hpart => ?_
    rcases hplain part hpart with rfl | rfl <;> rfl
  refine ⟨?_, .singleton _, fun _ => List.not_mem_nil, ?_⟩
  · intro block hblock
    rw [List.mem_singleton.mp hblock]
    exact ⟨List.cons_ne_nil _ _, hproper, hapart.isChain⟩
  · rw [List.flatMap_singleton, Block.names, hnames]
    exact .nil

/-- A mixed segment with more wildcards and captures than there is room for is refused. -/
theorem parse_error_of_countP (hvalid : o.validate = .ok o) {parts : List Part}
    (h : IsWritten o.separator [.segment parts]) (hmixing : parts.any Part.isMixing = true)
    (hmany : 10877 < parts.countP Part.isOpen) :
    Pattern.parse o (Block.textOf o.separator [.segment parts])
      = .error ⟨Block.textOf o.separator [.segment parts], 0, .malformedConstraint⟩ := by
  have hlength : 10877 < parts.length := Nat.lt_of_lt_of_le hmany List.countP_le_length
  have hlarge : (segmentKind o parts).fits = false := by
    rw [segmentKind_eq, if_pos hmixing, ElementKind.fits]
    · exact Bool.eq_false_iff.mpr fun hfits => Nat.not_le_of_lt hmany (countP_isOpen_of_fits hfits)
    · rintro rfl
      simp at hlength
    · rintro rfl
      simp at hlength
    · rintro name rfl
      simp at hlength
  have hready : Chain.Ready o ⟨[], []⟩ ([] ++ .segment parts :: []) := h.ready
  exact parse_error_of_placeAll (tokens_textOf hvalid h)
    (Chain.placeAll_blocks_error hready (by simp) hlarge 0)

/-- **A text written without constraints parses to the elements it stands for**, unless the regular
expression of a mixed segment takes too much room; then the first such segment is refused. -/
theorem parse_textOf (hvalid : o.validate = .ok o) (h : IsWritten o.separator blocks) :
    (∀ block ∈ blocks, (block.kind o).fits = true) ∧
        (∃ p, Pattern.parse o (Block.textOf o.separator blocks) = .ok p ∧
          p.kinds = Block.chain o blocks) ∨
      ∃ before parts after, blocks = before ++ .segment parts :: after ∧
        (∀ block ∈ before, (block.kind o).fits = true) ∧
        (segmentKind o parts).fits = false ∧
        Pattern.parse o (Block.textOf o.separator blocks)
          = .error ⟨Block.textOf o.separator blocks, (Block.textOf o.separator before).length,
              .malformedConstraint⟩ := by
  have hready := h.ready
  by_cases hfits : ∀ block ∈ blocks, (block.kind o).fits = true
  · obtain ⟨ch, hch, hkinds⟩ :=
      Chain.placeAll_blocks hready hfits (by simp [Chain.EndsWithSeparator]) 0
    refine .inl ⟨hfits, _, parse_of_placeAll (tokens_textOf hvalid h) hch, ?_⟩
    rw [Pattern.kinds, List.map_reverse, hkinds]
    simp
  · obtain ⟨block, hfind⟩ : ∃ block, blocks.find? (fun b => !(b.kind o).fits) = some block := by
      rw [← Option.isSome_iff_exists, List.find?_isSome]
      simpa using hfits
    obtain ⟨hlarge, before, after, hblocks, hbefore⟩ := List.find?_eq_some_iff_append.mp hfind
    rw [Bool.not_eq_true'] at hlarge
    simp only [Bool.not_not] at hbefore
    cases block with
    | separator => simp [Block.kind, ElementKind.fits] at hlarge
    | rest name => simp [Block.kind, ElementKind.fits] at hlarge
    | segment parts =>
      subst hblocks
      refine .inr ⟨before, parts, after, rfl, hbefore, hlarge, ?_⟩
      have hfault := parse_error_of_placeAll (tokens_textOf hvalid h)
        (Chain.placeAll_blocks_error hready hbefore hlarge 0)
      rwa [Nat.zero_add] at hfault

/-- The text `/a?/*/{b}-{c}.d/**/e/{*f}`. -/
theorem parse_textOf_mixed :
    let blocks : List Block := [.separator, .segment [.char 'a', .question], .separator,
      .segment [.star], .separator, .segment [.capture ['b'], .char '-', .capture ['c'],
        .char '.', .char 'd'], .separator, .segment [.star, .star], .separator,
      .segment [.char 'e'], .separator, .rest ['f']]
    PatternOptions.default.validate = .ok .default ∧ IsWritten '/' blocks ∧
      ∃ p, Pattern.parse .default (Block.textOf '/' blocks) = .ok p ∧
        p.kinds = Block.chain .default blocks := by
  intro blocks
  have hvalid : PatternOptions.default.validate = .ok .default := rfl
  have hfits : ∀ block ∈ blocks, (block.kind .default).fits = true := by decide +kernel
  have hnames : IsName ['b'] ∧ IsName ['c'] ∧ IsName ['f'] := by
    simp only [IsName, List.not_mem_nil, false_implies, implies_true, and_true]
    decide +kernel
  have hproper : ∀ block ∈ blocks, block.IsProper '/' := by
    simp only [blocks, List.forall_mem_cons, Block.IsProper, true_and]
    refine ⟨⟨?_, ?_, ?_⟩, ⟨?_, ?_, ?_⟩, ⟨?_, ?_, ?_⟩, ⟨?_, ?_, ?_⟩, ⟨?_, ?_, ?_⟩, hnames.2.2, ?_⟩
    all_goals simp [Part.IsProper, Part.isCapture, hnames]
  have hwritten : IsWritten '/' blocks := ⟨hproper, by simp [blocks], by simp [blocks], by decide⟩
  refine ⟨hvalid, hwritten, ?_⟩
  rcases parse_textOf hvalid hwritten with ⟨-, hparse⟩ | ⟨before, parts, after, heq, -, hlarge, -⟩
  · exact hparse
  · have hsegment := hfits (.segment parts) (heq ▸ by simp)
    exact absurd hsegment (by simp [Block.kind, hlarge])

/-- A `*` and eleven thousand times `?`: read backward, each place for any one character takes 964
bytes, which is more than there is room for. -/
theorem parse_textOf_tooLarge :
    let blocks : List Block := [.segment (.star :: List.replicate 11000 .question)]
    PatternOptions.default.validate = .ok .default ∧ IsWritten '/' blocks ∧
      ¬∃ p, Pattern.parse .default (Block.textOf '/' blocks) = .ok p := by
  intro blocks
  have hwritten : IsWritten '/' blocks := isWritten_wildcards '/' 11000
  have hfault := parse_error_of_countP (o := .default) rfl hwritten rfl (by
    rw [List.countP_cons, List.countP_replicate]
    decide)
  exact ⟨rfl, hwritten, fun ⟨p, hp⟩ => absurd (hp.symm.trans hfault) nofun⟩

end PathRouting
