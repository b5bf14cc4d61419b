import Accessors.Text.Quoted

namespace Accessors.Text

theorem hexDigits_eq (n : Nat) : hexDigits n =
    if n < 16 then [n.digitChar] else hexDigits (n / 16) ++ [(n % 16).digitChar] :=
  Nat.toDigits_eq_if (by decide)

theorem hexValue?_digitChar : ∀ d < 16, hexValue? d.digitChar = some d := by
  decide

theorem digitChar_ne_brace : ∀ d < 16, Nat.digitChar d ≠ '\x7d' := by
  decide

theorem hexNumber_concat (cs : List Char) {d : Nat} (h : d < 16) :
    hexNumber (cs ++ [d.digitChar]) = 16 * hexNumber cs + d := by
  simp [hexNumber, hexValue?_digitChar d h]

theorem hexNumber_hexDigits (n : Nat) : hexNumber (hexDigits n) = n := by
  induction n using Nat.strongRecOn
  case ind n ih =>
    rw [hexDigits_eq]
    split
    case isTrue h =>
      have := hexNumber_concat [] h
      simpa [hexNumber] using this
    case isFalse h =>
      have := ih (n / 16) (by omega)
      rw [hexNumber_concat _ (by omega), this]
      omega

theorem ne_brace_of_mem_hexDigits {n : Nat} {c : Char} (h : c ∈ hexDigits n) : c ≠ '\x7d' := by
  induction n using Nat.strongRecOn
  case ind n ih =>
    rw [hexDigits_eq] at h
    split at h
    case isTrue hn =>
      rw [List.mem_singleton.mp h]
      exact digitChar_ne_brace n hn
    case isFalse hn =>
      cases List.mem_append.mp h
      case inl h => exact ih (n / 16) (by omega) h
      case inr h =>
        rw [List.mem_singleton.mp h]
        exact digitChar_ne_brace (n % 16) (by omega)

theorem unescape_plain {c : Char} (rest : List Char) (hq : c ≠ '"') (hb : c ≠ '\\')
    (hr : c ≠ '\r') : unescape (c :: rest) = (c :: ·) <$> unescape rest := by
  rw [unescape.eq_def]
  split <;> simp_all

theorem unescape_codePoint (n : Nat) (rest : List Char) :
    unescape ('\\' :: 'u' :: '\x7b' :: (hexDigits n ++ '\x7d' :: rest)) =
      (Char.ofNat n :: ·) <$> unescape rest := by
  have h : ∀ c ∈ hexDigits n, (c != '\x7d') = true := by
    intro c hc
    simpa using ne_brace_of_mem_hexDigits hc
  rw [unescape, List.takeWhile_append_of_pos h, List.dropWhile_append_of_pos h]
  simp [hexNumber_hexDigits]

theorem unescape_escape (c : Char) (rest : List Char) :
    unescape (escape c ++ rest) = (c :: ·) <$> unescape rest := by
  unfold escape
  split
  case h_6 ht hr hn hb hq =>
    split
    case isTrue => exact unescape_plain rest hq hb hr
    case isFalse =>
      have := unescape_codePoint c.toNat rest
      rw [Char.ofNat_toNat] at this
      simpa using this
  all_goals rw [List.cons_append, List.cons_append, List.nil_append, unescape]

theorem unescape_escapeAll (cs : List Char) : unescape (escapeAll cs ++ ['"']) = some cs := by
  induction cs
  case nil => rw [escapeAll, List.nil_append, unescape]
  case cons c cs ih =>
    rw [escapeAll]
    split
    case isTrue h =>
      split
      case isTrue =>
        simp only [List.cons_append, List.nil_append, unescape, ih, h]
        rfl
      case isFalse =>
        simp only [List.cons_append, List.nil_append, unescape, ih, h]
        rfl
    case isFalse => rw [List.append_assoc, unescape_escape, ih, Option.map_eq_map, Option.map_some]

theorem unquote?_quote (s : String) : unquote? (quote s) = some s := by
  simp [unquote?, quote, unescape_escapeAll]

end Accessors.Text
