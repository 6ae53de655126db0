import Mathlib.Data.List.Infix
import Mathlib.Data.List.TakeWhile
import ProxyWarden.Dispatch.Relay
import ProxyWarden.Proofs.Text.Pieces

/-!
# Cutting an output into lines

The lines of a whole output are found one at a time: up to a newline the next line is settled by what
stands before it (`lines_append_newline`), and an open line is the last one (`lines_of_open`). A line
goes to the access journal exactly if the marker stands somewhere in it.
-/
namespace ProxyWarden.Dispatch

variable {line rest text : Bytes}

theorem occurs_iff_infix (w cs : List Char) : occurs w cs = true ↔ w <:+: cs := by
  induction cs with
  | nil => simp [occurs]
  | cons c cs ih =>
      rw [occurs, Bool.or_eq_true, ih, List.isPrefixOf_iff_prefix, List.infix_cons_iff]

theorem ofLine_eq_access_iff (l : String) :
    Channel.ofLine l = .access ↔ AccessLine.marker <:+: l.toList := by
  rw [← occurs_iff_infix, Channel.ofLine]
  split_ifs with h
  · simp [h]
  · simp [h]

/-! ## Lines of an output -/

theorem lines_nil : lines [] = [] := rfl

/-- The text before a newline is the first line, whatever follows. -/
theorem lines_append_newline (h : Bytes.newline ∉ line) (rest : Bytes) :
    lines (line ++ Bytes.newline :: rest) = Utf8.lossy (dropReturn line) :: lines rest := by
  have hpieces := Bytes.pieces_line h rest
  have hne := Bytes.pieces_ne_nil rest
  have hended : endedLines (line ++ Bytes.newline :: rest) =
      Utf8.lossy (dropReturn line) :: endedLines rest := by
    rw [endedLines, hpieces, List.dropLast_cons_of_ne_nil hne]
    rfl
  have hopen : openLine (line ++ Bytes.newline :: rest) = openLine rest := by
    rw [openLine, hpieces, List.getLast?_cons_of_ne_nil hne]
    rfl
  rw [lines, hended, hopen]
  rfl

theorem lines_of_open (h : Bytes.newline ∉ text) (hne : text ≠ []) :
    lines text = [Utf8.lossy text] := by
  obtain ⟨b, r, rfl⟩ := List.exists_cons_of_ne_nil hne
  rw [lines, endedLines, openLine, Bytes.pieces_of_newline_notMem h]
  rfl

/-! ## The first line -/

theorem cutLine?_eq_some (h : cutLine? text = some (line, rest)) :
    text = line ++ Bytes.newline :: rest ∧ Bytes.newline ∉ line := by
  unfold cutLine? at h
  split at h
  · cases h
  · next b r hdrop =>
      cases h
      have hhead := List.head?_dropWhile_not (fun b => b != Bytes.newline) text
      rw [hdrop] at hhead
      have hb : b = Bytes.newline := by simpa using hhead
      constructor
      · rw [hb] at hdrop
        rw [← hdrop]
        exact (List.takeWhile_append_dropWhile).symm
      · intro hmem
        have htake := List.mem_takeWhile_imp hmem
        simp at htake

theorem cutLine?_eq_none (h : cutLine? text = none) : Bytes.newline ∉ text := by
  unfold cutLine? at h
  split at h
  · next hdrop =>
      rw [List.dropWhile_eq_nil_iff] at hdrop
      intro hmem
      have hne := hdrop Bytes.newline hmem
      simp at hne
  · cases h

end ProxyWarden.Dispatch
