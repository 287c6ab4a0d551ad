import SqlBuilder.Text.Basic

/-!
Quoted identifiers.  A name is cut at its dots; every segment stands between
double quotes with its own double quotes written twice, except the segment
`*`, which stays bare.  The quoted form can be read back from the beginning of
any text, and reading stops where the name ends.
-/

namespace SqlBuilder.Identifier

/-- The text with every double quote written twice. -/
def doubled (segment : Text) : Text :=
  segment.flatMap fun c => if c = '\x22' then ['\x22', '\x22'] else [c]

/-- A single segment as it stands in a quoted identifier. -/
def quotedSegment (segment : Text) : Text :=
  if segment = "*" then "*" else "\x22" ++ doubled segment ++ "\x22"

/-- The segments of a name, between its dots. -/
def segments (name : Text) : List Text := name.splitOn '.'

/-- The quoted form of a possibly dotted name. -/
def quote (name : Text) : Text := Text.joined "." ((segments name).map quotedSegment)

/-- Reads the inside of double quotes up to the quote that stands alone: the
segment, and what follows it. -/
def inside? : Text → Option (Text × Text)
  | [] => none
  | c :: rest =>
      if c = '\x22' then
        match rest with
        | [] => some ([], [])
        | next :: later =>
            if next = '\x22' then (inside? later).map fun read => ('\x22' :: read.1, read.2)
            else some ([], next :: later)
      else (inside? rest).map fun read => (c :: read.1, read.2)

/-- Reads a segment: what stands between double quotes, or a bare `*`. -/
def segment? : Text → Option (Text × Text)
  | '\x22' :: rest => inside? rest
  | '*' :: rest => some ("*", rest)
  | _ => none

/-- A closing quote is taken at least, so that reading segments comes to an end. -/
theorem length_lt_of_inside? {text segment rest : Text}
    (read : inside? text = some (segment, rest)) : rest.length < text.length := by
  fun_induction inside? text generalizing segment with
  | case1 => simp at read
  | case2 =>
      simp only [Option.some.injEq, Prod.mk.injEq] at read
      simp [← read.2]
  | case3 later ih =>
      obtain ⟨inner, found, parts⟩ := Option.map_eq_some_iff.1 read
      have again : inside? later = some (inner.1, rest) := by
        rw [found, ← (Prod.mk.inj parts).2]
      have shorter := ih again
      simp only [List.length_cons]
      omega
  | case4 next later other =>
      simp only [Option.some.injEq, Prod.mk.injEq] at read
      simp [← read.2]
  | case5 c later other ih =>
      obtain ⟨inner, found, parts⟩ := Option.map_eq_some_iff.1 read
      have again : inside? later = some (inner.1, rest) := by
        rw [found, ← (Prod.mk.inj parts).2]
      have shorter := ih again
      simp only [List.length_cons]
      omega

theorem length_lt_of_segment? {text segment rest : Text}
    (read : segment? text = some (segment, rest)) : rest.length < text.length := by
  unfold segment? at read
  split at read
  · have shorter := length_lt_of_inside? read
    simp only [List.length_cons]
    omega
  · simp only [Option.some.injEq, Prod.mk.injEq] at read
    simp [← read.2]
  · simp at read

/-- Reads a quoted identifier: its segments, and what follows it. -/
def read? (text : Text) : Option (List Text × Text) :=
  match _ : segment? text with
  | none => none
  | some (segment, '.' :: rest) =>
      (read? rest).map fun read => (segment :: read.1, read.2)
  | some (segment, rest) => some ([segment], rest)
termination_by text.length
decreasing_by
  have shorter : ('.' :: rest).length < text.length := length_lt_of_segment? (by assumption)
  rw [List.length_cons] at shorter
  omega

example : quote "public.users" = "\x22public\x22.\x22users\x22" := by decide
example : quote "u.*" = "\x22u\x22.*" := by decide
example : quote "a\x22b" = "\x22a\x22\x22b\x22" := by decide

example : read? "\x22a\x22\x22b\x22.* AND" =
    some (["a\x22b".toList, "*".toList], " AND".toList) := by decide +kernel

end SqlBuilder.Identifier
