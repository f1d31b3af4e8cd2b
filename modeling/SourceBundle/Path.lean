import SourceBundle.Text.Utf8

/-! # Paths — names of places in a file system, as bytes

    A path is any byte string.  Joining and taking the parent work on the written
    path alone and never look at a file system.  `Path.steps` is what a walk through
    a file system follows. -/

namespace SourceBundle

/-- A path as it is written. -/
structure Path where
  bytes : Bytes
  deriving DecidableEq, Repr

namespace Path

/-- The byte between the names of a path. -/
def slash : UInt8 := 0x2F

/-- The name of a directory inside itself. -/
def dot : Bytes := [0x2E]

/-- The name of a directory's parent inside it. -/
def dotDot : Bytes := [0x2E, 0x2E]

/-- The path a text names. -/
def ofText (text : String) : Path := ⟨Utf8.encode text⟩

/-- The path as text for a message; bytes that are not UTF-8 show as U+FFFD. -/
def display (p : Path) : String := Utf8.decodeLossy p.bytes

/-- The path as text, if it is UTF-8. -/
def text? (p : Path) : Option String := Utf8.decode? p.bytes

/-- Does the path start at the root? -/
def isAbsolute (p : Path) : Bool := p.bytes.head? == some slash

/-- The path `p` seen from the directory `base`: an absolute `p` stands for itself, any other is
    written after `base` with one slash between, unless `base` is empty or ends in one. -/
def join (base p : Path) : Path :=
  if p.isAbsolute then p
  else if base.bytes = [] || base.bytes.getLast? == some slash then ⟨base.bytes ++ p.bytes⟩
  else ⟨base.bytes ++ slash :: p.bytes⟩

/-- The pieces of a byte string between its slashes: one more than there are slashes. -/
def split : Bytes → List Bytes
  | [] => [[]]
  | b :: rest =>
      if b = slash then [] :: split rest
      else match split rest with
        | [] => [[b]]
        | piece :: pieces => (b :: piece) :: pieces

/-- Pieces put together again, a slash between any two. -/
def unsplit : List Bytes → Bytes
  | [] => []
  | [piece] => piece
  | piece :: pieces => piece ++ slash :: unsplit pieces

theorem split_ne_nil (bytes : Bytes) : split bytes ≠ [] := by
  cases bytes with
  | nil => simp [split]
  | cons b rest =>
      simp only [split]
      split
      · simp
      · split <;> simp

theorem unsplit_split (bytes : Bytes) : unsplit (split bytes) = bytes := by
  induction bytes with
  | nil => rfl
  | cons b rest ih =>
      obtain ⟨piece, pieces, hs⟩ := List.exists_cons_of_ne_nil (split_ne_nil rest)
      rw [hs] at ih
      simp only [split, hs]
      split
      · next h => rw [← ih, h]; simp [unsplit]
      · rw [← ih]; cases pieces <;> simp [unsplit]

/-- Pieces without those at the end that name no step: empty ones and single dots. -/
def dropIdle (pieces : List Bytes) : List Bytes :=
  (pieces.reverse.dropWhile fun piece => piece = [] || piece = dot).reverse

/-- The part of a path that stays in front of all its names, and the rest: the root's slash, or
    a single dot that opens a relative path. -/
def lead (p : Path) : Bytes × Bytes :=
  match split p.bytes with
  | [] :: _ :: _ => ([slash], p.bytes.drop 1)
  | piece :: _ => if piece = dot then (dot, p.bytes.drop 1) else ([], p.bytes)
  | [] => ([], p.bytes)

/-- The path without its last name; the empty path and the root have none to lose. Idle pieces
    around that name go with it. -/
def parent? (p : Path) : Option Path :=
  let (front, body) := p.lead
  match dropIdle (split body) with
  | [] => if front = dot then some ⟨[]⟩ else none
  | pieces => some ⟨front ++ unsplit (dropIdle pieces.dropLast)⟩

theorem dropIdle_append (pieces : List Bytes) : ∃ idle, dropIdle pieces ++ idle = pieces := by
  refine ⟨(pieces.reverse.takeWhile fun piece => piece = [] || piece = dot).reverse, ?_⟩
  rw [dropIdle, ← List.reverse_append, List.takeWhile_append_dropWhile, List.reverse_reverse]

theorem getLast_dropIdle_ne_nil {pieces : List Bytes} (h : dropIdle pieces ≠ []) :
    (dropIdle pieces).getLast h ≠ [] := by
  intro hlast
  unfold dropIdle at h hlast
  rw [List.getLast_reverse] at hlast
  have hne : pieces.reverse.dropWhile (fun piece => piece = [] || piece = dot) ≠ [] := by
    simpa using h
  have := List.head_dropWhile_not (fun piece : Bytes => piece = [] || piece = dot) hne
  simp [hlast] at this

theorem length_unsplit_append_le (left right : List Bytes) :
    (unsplit left).length ≤ (unsplit (left ++ right)).length := by
  induction left with
  | nil => simp [unsplit]
  | cons piece left ih =>
      cases left with
      | nil => cases right <;> simp [unsplit]
      | cons next left => simpa [unsplit] using ih

theorem length_unsplit_append_singleton (left : List Bytes) (last : Bytes) :
    (unsplit left).length + last.length ≤ (unsplit (left ++ [last])).length := by
  induction left with
  | nil => simp [unsplit]
  | cons piece left ih =>
      cases left with
      | nil => simp [unsplit]
      | cons next left => simp [unsplit] at ih ⊢; omega

theorem lead_append (p : Path) : p.lead.1 ++ p.lead.2 = p.bytes := by
  have hsplit := unsplit_split p.bytes
  unfold lead
  split
  · next piece pieces hs =>
      rw [← hsplit, hs]
      cases pieces <;> simp [unsplit]
  · next piece pieces _ hs =>
      split
      · next hdot =>
          rw [← hsplit, hs, hdot]
          cases pieces <;> simp [unsplit, dot]
      · simp
  · simp

/-- Taking the parent makes a path shorter, so climbing from parent to parent ends. -/
theorem length_parent?_lt {p q : Path} (h : p.parent? = some q) :
    q.bytes.length < p.bytes.length := by
  have hlead := congrArg List.length p.lead_append
  have hbody := congrArg List.length (unsplit_split p.lead.2)
  obtain ⟨idle, hidle⟩ := dropIdle_append (split p.lead.2)
  simp only [parent?] at h
  split at h
  · split at h
    · next hdot =>
        obtain rfl := by simpa using h
        simp [hdot, dot] at hlead ⊢
        omega
    · simp at h
  · next hne =>
      have hne : dropIdle (split p.lead.2) ≠ [] := hne
      obtain rfl := by simpa using h
      obtain ⟨idle', hidle'⟩ := dropIdle_append (dropIdle (split p.lead.2)).dropLast
      have h₁ := length_unsplit_append_le (dropIdle (dropIdle (split p.lead.2)).dropLast) idle'
      have h₂ := length_unsplit_append_singleton (dropIdle (split p.lead.2)).dropLast
        ((dropIdle (split p.lead.2)).getLast hne)
      have h₃ := length_unsplit_append_le (dropIdle (split p.lead.2)) idle
      have h₄ := List.length_pos_iff.2 (getLast_dropIdle_ne_nil hne)
      rw [hidle'] at h₁
      rw [List.dropLast_concat_getLast] at h₂
      rw [hidle] at h₃
      simp only [List.length_append] at hlead ⊢
      omega

/-- One step of a walk along a path. -/
inductive Step where
  /-- Into the entry of this name. -/
  | child (name : Bytes)
  /-- A single dot: stay, in a directory. -/
  | here
  /-- Two dots: up. -/
  | up
  /-- A slash at the end: what was reached has to be a directory. -/
  | directory
  deriving DecidableEq, Repr

/-- The steps of pieces between slashes; nothing after the last slash asks for a directory. -/
def stepsOf : List Bytes → List Step
  | [] => []
  | [[]] => [.directory]
  | [] :: pieces => stepsOf pieces
  | piece :: pieces =>
      (if piece = dot then .here else if piece = dotDot then .up else .child piece)
        :: stepsOf pieces

/-- The steps a path asks for, from the root or from the directory the walk starts in. -/
def steps (p : Path) : List Step := stepsOf (split p.bytes)

end Path

end SourceBundle
