import Mathlib.Data.List.Basic

/-! Texts cut into tokens from left to right. White space that keeps apart what would
otherwise be one token parts it; texts of the same characters have the same tokens just when
they are parted at the same places. -/
namespace Anastom.Lexing
variable {α σ : Type}

/-- The characters of some tokens, each with whether it begins its token. -/
def spell : List (List α) → List (α × Bool)
  | [] => []
  | [] :: more => spell more
  | (c :: rest) :: more => (c, true) :: rest.map (fun c => (c, false)) ++ spell more

/-- The tokens that marked characters spell. -/
def tokens : List (α × Bool) → List (List α)
  | [] => []
  | [(c, _)] => [[c]]
  | (c, _) :: next :: rest =>
    if next.2 then [c] :: tokens (next :: rest)
    else (tokens (next :: rest)).modifyHead (c :: ·)

/-- How a text is cut: the state that a character leaves when it begins a token, and when it
continues the token before it, if it can; and where a character, just after white space or not,
is white space itself. -/
structure Scanner (α σ : Type) where
  opens : α → σ
  continues : σ → α → Option σ
  layout : σ → Bool → α → Bool

namespace Scanner
variable (scanner : Scanner α σ)

/-- The state after a character of a token. -/
def next (state : σ) (starts : Bool) (c : α) : σ :=
  if starts then scanner.opens c else (scanner.continues state c).getD (scanner.opens c)

/-- Whether a character, after white space or not, begins a token. -/
def starts (state : σ) (spaced : Bool) (c : α) : Bool :=
  spaced || (scanner.continues state c).isNone

/-- The characters of the tokens of a text, each with whether it begins its token. -/
def scan : σ → Bool → List α → List (α × Bool)
  | _, _, [] => []
  | state, spaced, c :: rest =>
    if scanner.layout state spaced c then scan state true rest
    else
      let begins := scanner.starts state spaced c
      (c, begins) :: scan (scanner.next state begins c) false rest

/-- The state after marked characters. -/
def after : σ → List (α × Bool) → σ
  | state, [] => state
  | state, (c, starts) :: rest => after (scanner.next state starts c) rest

/-- Which characters begin a token though they could continue the one before it: white space
parts them. -/
def parted : σ → List (α × Bool) → List Bool
  | _, [] => []
  | state, (c, starts) :: rest =>
    (starts && (scanner.continues state c).isSome) :: parted (scanner.next state starts c) rest

variable {scanner}

end Scanner
end Anastom.Lexing
