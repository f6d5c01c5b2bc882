/-
Data notices in a burst, and what the analysis loop reads of them.

- `notice_read`: a notice at the position is read as it was sent;
- `analysisLoop_notices`: notices in a row are put into the FIFO one after the other;
- `misread`: with an answer before it, a notice of zero bytes is never read as it was sent.
-/
import DataConcentrator.Modem.Receive

namespace DataConcentrator.Modem

open DataConcentrator.Memory

/-! ## Notices -/

/-- `+QIURC: "recv",0,<n>` on a line of its own -/
def header (n : ℕ) : List UInt8 := crlf ++ qiurc ++ recv ++ [0x2C, 0x30, 0x2C] ++ decimal n ++ crlf

/-- a data notice -/
def notice (payload : List UInt8) : List UInt8 := header payload.length ++ payload ++ crlf

theorem length_header (n : ℕ) : (header n).length = 21 + (decimal n).length := by
  simp only [header, crlf, qiurc, recv, List.length_append, List.length_cons, List.length_nil]
  omega

theorem length_notice (payload : List UInt8) :
    (notice payload).length = 21 + (decimal payload.length).length + payload.length + 2 := by
  rw [notice, List.length_append, List.length_append, length_header]
  rfl

theorem length_decimal_le {n : ℕ} (h : n ≤ 1500) : (decimal n).length ≤ 4 := by
  rw [decimal, List.length_map, List.length_reverse, Nat.digits_length_le_iff (by omega)]
  omega

theorem not_mem_header (n : ℕ) : 0 ∉ header n := by
  have hfixed : (0 : UInt8) ∉ crlf ++ qiurc ++ recv ++ [0x2C, 0x30, 0x2C] := by decide
  have hcrlf : (0 : UInt8) ∉ crlf := by decide
  have hdecimal : (0 : UInt8) ∉ decimal n := not_mem_decimal n (by decide)
  rw [header, List.mem_append, List.mem_append, not_or, not_or]
  exact ⟨⟨hfixed, hdecimal⟩, hcrlf⟩

theorem qiurc_infix_header (n : ℕ) : qiurc <:+: header n :=
  ⟨crlf, recv ++ [0x2C, 0x30, 0x2C] ++ decimal n ++ crlf, by simp only [header, List.append_assoc]⟩

theorem recv_infix_header (n : ℕ) : recv <:+: header n :=
  ⟨crlf ++ qiurc, [0x2C, 0x30, 0x2C] ++ decimal n ++ crlf, by simp only [header, List.append_assoc]⟩

/-! ## The searches in a header -/

theorem later_ofNat (n i k : ℕ) : later n (k, UInt16.ofNat i) = (k, UInt16.ofNat (i + n)) := by
  rw [later, UInt16.ofNat_add]

theorem find_comma_one (n : ℕ) (rest : List UInt8) : findStrAt comma 1 (header n ++ rest) = (1, UInt16.ofNat 16) := by
  have hsplit : header n ++ rest =
      (crlf ++ qiurc ++ recv) ++ (comma ++ ([0x30] ++ (comma ++ (decimal n ++ crlf ++ rest)))) := by
    simp only [header, comma, List.append_assoc, List.cons_append, List.nil_append]
  have hfree : (0x2C : UInt8) ∉ crlf ++ qiurc ++ recv := by decide
  rw [hsplit, comma, findStrAt_skip 0x2C [] 1 hfree, findStrAt_hit _ _ (List.cons_ne_nil _ _)]
  exact later_ofNat 16 0 1

theorem find_comma_two (n : ℕ) (rest : List UInt8) : findStrAt comma 2 (header n ++ rest) = (1, UInt16.ofNat 18) := by
  have hsplit : header n ++ rest =
      (crlf ++ qiurc ++ recv) ++ (comma ++ ([0x30] ++ (comma ++ (decimal n ++ crlf ++ rest)))) := by
    simp only [header, comma, List.append_assoc, List.cons_append, List.nil_append]
  have hfree : (0x2C : UInt8) ∉ crlf ++ qiurc ++ recv := by decide
  have hzero : (0x2C : UInt8) ∉ [(0x30 : UInt8)] := by decide
  calc findStrAt comma 2 (header n ++ rest)
      = later 16 (findStrAt comma 2 (comma ++ ([0x30] ++ (comma ++ (decimal n ++ crlf ++ rest))))) := by
        rw [hsplit, comma, findStrAt_skip 0x2C [] 2 hfree]
        rfl
    _ = later 16 (later 1 (findStrAt comma 1 ([0x30] ++ (comma ++ (decimal n ++ crlf ++ rest))))) := by
        rw [comma, findStrAt_pass 0x2C [] 0 List.not_mem_nil]
        rfl
    _ = later 16 (later 1 (later 1 (findStrAt comma 1 (comma ++ (decimal n ++ crlf ++ rest))))) := by
        rw [comma, findStrAt_skip 0x2C [] 1 hzero]
        rfl
    _ = later 16 (later 1 (later 1 (1, UInt16.ofNat 0))) := by
        rw [comma, findStrAt_hit _ _ (List.cons_ne_nil _ _)]
        rfl
    _ = (1, UInt16.ofNat 18) := by rw [later_ofNat, later_ofNat, later_ofNat]

theorem find_crlf_one (n : ℕ) (rest : List UInt8) : findStrAt crlf 1 (header n ++ rest) = (2, UInt16.ofNat 0) := by
  have hsplit : header n ++ rest = crlf ++ (qiurc ++ recv ++ [0x2C, 0x30, 0x2C] ++ decimal n ++ crlf ++ rest) := by
    simp only [header, List.append_assoc]
  rw [hsplit, findStrAt_hit crlf _ (List.cons_ne_nil _ _)]
  rfl

theorem find_crlf_two (n : ℕ) (rest : List UInt8) :
    findStrAt crlf 2 (header n ++ rest) = (2, UInt16.ofNat (19 + (decimal n).length)) := by
  have hsplit : header n ++ rest = crlf ++ ((qiurc ++ recv ++ [0x2C, 0x30, 0x2C] ++ decimal n) ++ (crlf ++ rest)) := by
    simp only [header, List.append_assoc]
  have hfixed : (0x0D : UInt8) ∉ qiurc ++ recv ++ [0x2C, 0x30, 0x2C] := by decide
  have hfree : (0x0D : UInt8) ∉ qiurc ++ recv ++ [0x2C, 0x30, 0x2C] ++ decimal n := by
    rw [List.mem_append, not_or]
    exact ⟨hfixed, not_mem_decimal n (by decide)⟩
  have hlf : (0x0D : UInt8) ∉ [(0x0A : UInt8)] := by decide
  have hlen : (qiurc ++ recv ++ [0x2C, 0x30, 0x2C] ++ decimal n).length = 17 + (decimal n).length := by
    rw [List.length_append]
    rfl
  rw [hsplit, crlf, findStrAt_pass 0x0D [0x0A] 0 hlf, findStrAt_skip 0x0D [0x0A] _ hfree,
    findStrAt_hit _ _ (List.cons_ne_nil _ _), hlen]
  show later 2 (later _ (2, UInt16.ofNat 0)) = _
  rw [later_ofNat, later_ofNat]
  congr 2
  omega

/-! ## A notice at the position -/

variable {memory : List UInt8} {pos : UInt16}

theorem textAt_header {n : ℕ} {rest : List UInt8} (h : memory.drop pos.toNat = header n ++ rest) :
    textAt memory pos = header n ++ cstr rest := by
  rw [textAt, h, cstr_append (not_mem_header n)]

theorem tempBuf_header {n : ℕ} {rest : List UInt8} (hn : n ≤ 1500) (h : memory.drop pos.toNat = header n ++ rest) :
    tempBuf memory pos = decimal n := by
  have hlen := length_decimal_le hn
  have h18 : (UInt16.ofNat 18).toNat = 18 := rfl
  have hend : (UInt16.ofNat (19 + (decimal n).length)).toNat = 19 + (decimal n).length := by
    rw [UInt16.toNat_ofNat']
    exact Nat.mod_eq_of_lt (by omega)
  have hsplit : header n ++ cstr rest =
      (crlf ++ qiurc ++ recv ++ [0x2C, 0x30, 0x2C]) ++ (decimal n ++ (crlf ++ cstr rest)) := by
    simp only [header, List.append_assoc]
  rw [tempBuf, textAt_header h, getStr1, find_comma_two, find_crlf_two]
  dsimp only
  rw [if_pos ⟨one_ne_zero, two_ne_zero⟩, h18, hend, hsplit, List.drop_append_of_le_length (by decide)]
  have hcount : 19 + (decimal n).length - 18 - 1 = (decimal n).length := by omega
  rw [hcount]
  exact List.take_left

/-- **A notice is read** as it was sent. -/
theorem notice_read {payload rest : List UInt8} (hsize : payload.length ≤ 1500)
    (h : memory.drop pos.toNat = notice payload ++ rest) :
    IsNotice memory pos ∧ (tempBuf memory pos).length ≤ 7 ∧ datagramAt memory pos = payload ∧
      posAfter memory pos = pos + UInt16.ofNat (notice payload).length := by
  have hheader : memory.drop pos.toNat = header payload.length ++ (payload ++ crlf ++ rest) := by
    rw [h, notice, List.append_assoc, List.append_assoc, List.append_assoc]
  have htext := textAt_header hheader
  have htemp := tempBuf_header hsize hheader
  have hdigits := length_decimal_le hsize
  have hlenLen : (lenLen memory pos).toNat = (decimal payload.length).length := by
    rw [lenLen, htemp, UInt8.toNat_ofNat']
    exact Nat.mod_eq_of_lt (by omega)
  have hrecvLen : recvLen memory pos = UInt16.ofNat payload.length := by
    rw [recvLen, htemp, atoi_decimal, toUnsigned]
    congr 1
    omega
  have hrecvNat : (recvLen memory pos).toNat = payload.length := by
    rw [hrecvLen, UInt16.toNat_ofNat']
    exact Nat.mod_eq_of_lt (by omega)
  refine ⟨⟨?_, ?_⟩, ?_, ?_, ?_⟩
  · rw [htext]
    exact (qiurc_infix_header _).trans (List.prefix_append _ _).isInfix
  · rw [htext]
    exact (recv_infix_header _).trans (List.prefix_append _ _).isInfix
  · rw [htemp]
    omega
  · have hdrop : memory.drop (pos.toNat + 21 + (decimal payload.length).length) = payload ++ crlf ++ rest := by
      rw [Nat.add_assoc, ← length_header, ← List.drop_drop, hheader, List.drop_left]
    rw [datagramAt, hlenLen, hrecvNat, bytesAt, hdrop, List.append_assoc, List.append_assoc, List.take_left]
  · have hlenLen16 : (lenLen memory pos).toUInt16 = UInt16.ofNat (decimal payload.length).length := by
      apply UInt16.toNat_inj.1
      rw [UInt8.toNat_toUInt16, hlenLen, UInt16.toNat_ofNat']
      exact (Nat.mod_eq_of_lt (by omega)).symm
    rw [posAfter, hlenLen16, hrecvLen, length_notice, UInt16.ofNat_add, UInt16.ofNat_add, UInt16.ofNat_add]
    rfl

/-! ## Notices in a row -/

theorem toNat_ofNat_of_le {k : ℕ} (h : k ≤ NET_BUF_MAX_LEN) : (UInt16.ofNat k).toNat = k := by
  rw [UInt16.toNat_ofNat']
  exact Nat.mod_eq_of_lt (Nat.lt_of_le_of_lt h (by decide))

/-- the position after a notice, when there is more of the burst behind it -/
theorem next_notice {payload rest : List UInt8} {k : ℕ} {putPtr : UInt16} (hsize : payload.length ≤ 1500)
    (h : memory.drop k = notice payload ++ rest) (hput : k + (notice payload).length ≤ putPtr.toNat)
    (hmax : putPtr.toNat ≤ NET_BUF_MAX_LEN) :
    next memory putPtr (UInt16.ofNat k) =
      if k + (notice payload).length < putPtr.toNat then some (UInt16.ofNat (k + (notice payload).length)) else none := by
  have hk : (UInt16.ofNat k).toNat = k := toNat_ofNat_of_le (by omega)
  have hdrop : memory.drop (UInt16.ofNat k).toNat = notice payload ++ rest := by
    rw [hk]
    exact h
  have hread := notice_read hsize hdrop
  have hafter : posAfter memory (UInt16.ofNat k) = UInt16.ofNat (k + (notice payload).length) := by
    rw [hread.2.2.2, UInt16.ofNat_add]
  have hlt : UInt16.ofNat (k + (notice payload).length) < putPtr ↔ k + (notice payload).length < putPtr.toNat := by
    rw [UInt16.lt_iff_toNat_lt, toNat_ofNat_of_le (by omega)]
  rw [next, hafter]
  by_cases hmore : k + (notice payload).length < putPtr.toNat
  · rw [if_pos ⟨hread.1, hlt.2 hmore⟩, if_pos hmore]
  · rw [if_neg fun hn => hmore (hlt.1 hn.2), if_neg hmore]

/-- **Notices in a row** are put into the FIFO one after the other, and the loop is then where they end. -/
theorem analysisLoop_notices (payloads : List (List UInt8)) (hsize : ∀ p ∈ payloads, p.length ≤ 1500) :
    ∀ (fuel : ℕ) (s : St) (k : ℕ) (rest : List UInt8), s.memory.drop k = payloads.flatMap notice ++ rest →
      k + (payloads.flatMap notice).length < s.ringFifo.putPtr.toNat → s.ringFifo.putPtr.toNat ≤ NET_BUF_MAX_LEN →
      analysisLoop (payloads.length + fuel) s (UInt16.ofNat k) =
        analysisLoop fuel { s with dlBuf := putAll dl_buf s.dlBuf payloads }
          (UInt16.ofNat (k + (payloads.flatMap notice).length)) := by
  induction payloads with
  | nil =>
    intro fuel s k rest _ _ _
    rw [List.length_nil, Nat.zero_add]
    rfl
  | cons p ps ih =>
    intro fuel s k rest hmem hput hmax
    rw [List.flatMap_cons, List.append_assoc] at hmem
    rw [List.flatMap_cons, List.length_append] at hput
    have hp := hsize p List.mem_cons_self
    have hk : (UInt16.ofNat k).toNat = k := toNat_ofNat_of_le (by omega)
    have hdrop : s.memory.drop (UInt16.ofNat k).toNat = notice p ++ (ps.flatMap notice ++ rest) := by
      rw [hk]
      exact hmem
    obtain ⟨hnotice, hlen, hdata, -⟩ := notice_read hp hdrop
    have hnext := next_notice hp hmem (by omega) hmax
    rw [if_pos (by omega)] at hnext
    have hrest : s.memory.drop (k + (notice p).length) = ps.flatMap notice ++ rest := by
      rw [← List.drop_drop, hmem, List.drop_left]
    have hfuel : (p :: ps).length + fuel = ps.length + fuel + 1 := by
      rw [List.length_cons]
      omega
    rw [hfuel, analysisLoop_goto hnotice hlen hnext, hdata]
    rw [ih (fun q hq => hsize q (List.mem_cons_of_mem p hq)) fuel (s.put p) _ rest hrest (by
      show _ < s.ringFifo.putPtr.toNat
      omega) hmax, List.flatMap_cons, List.length_append, Nat.add_assoc]
    rfl

/-- notices in a row up to the end of the burst -/
theorem analysisLoop_only_notices {payloads : List (List UInt8)} (hne : payloads ≠ [])
    (hsize : ∀ p ∈ payloads, p.length ≤ 1500) {s : St} {more : List UInt8}
    (hmem : s.memory = payloads.flatMap notice ++ more)
    (hput : s.ringFifo.putPtr.toNat = (payloads.flatMap notice).length)
    (hmax : s.ringFifo.putPtr.toNat ≤ NET_BUF_MAX_LEN) :
    analysisLoop payloads.length s 0 =
      some (.ok { s with dlBuf := putAll dl_buf s.dlBuf payloads, ringFifo := ringbufClear s.ringFifo }) := by
  obtain ⟨ps, p, rfl⟩ := (List.eq_nil_or_concat' payloads).resolve_left hne
  have hflat : (ps ++ [p]).flatMap notice = ps.flatMap notice ++ notice p := by
    rw [List.flatMap_append, List.flatMap_singleton]
  rw [hflat] at hmem hput
  rw [List.length_append] at hput
  have hpos : 0 < (notice p).length := by
    rw [length_notice]
    omega
  have hp := hsize p (List.mem_append_right _ List.mem_cons_self)
  have hrun := analysisLoop_notices ps (fun q hq => hsize q (List.mem_append_left _ hq)) 1 s 0
    (notice p ++ more) (by rw [hmem, List.drop_zero, List.append_assoc]) (by omega) hmax
  have hlast : s.memory.drop (ps.flatMap notice).length = notice p ++ more := by
    rw [hmem, List.append_assoc, List.drop_left]
  have hdrop : s.memory.drop (UInt16.ofNat (ps.flatMap notice).length).toNat = notice p ++ more := by
    rw [toNat_ofNat_of_le (by omega)]
    exact hlast
  obtain ⟨hnotice, hlen, hdata, -⟩ := notice_read hp hdrop
  have hnext := next_notice hp hlast (by omega) hmax
  rw [if_neg (by omega)] at hnext
  rw [Nat.zero_add] at hrun
  rw [List.length_append, List.length_singleton]
  refine hrun.trans ?_
  calc analysisLoop 1 { s with dlBuf := putAll dl_buf s.dlBuf ps } (UInt16.ofNat (ps.flatMap notice).length)
      = some (.ok { s with
          dlBuf := (fifoPut dl_buf (putAll dl_buf s.dlBuf ps) (datagramAt s.memory _)).2
          ringFifo := ringbufClear s.ringFifo }) :=
        @analysisLoop_getOut { s with dlBuf := putAll dl_buf s.dlBuf ps } _ hnotice hlen hnext 0
    _ = _ := by
        rw [hdata, putAll, putAll, List.foldl_append]
        rfl

/-! ## An answer before a notice -/

/-- where the second comma of an answer with a notice behind it is -/
theorem find_comma_answer (answer : List UInt8) (n : ℕ) : ∃ i, findStrAt comma 2 (answer ++ header n) = (1, UInt16.ofNat i) ∧
    (i < answer.length ∨ i = answer.length + 16 ∨ i = answer.length + 18) := by
  have hone := find_comma_one n []
  have htwo := find_comma_two n []
  rw [List.append_nil] at hone htwo
  rcases findStrAt_append comma answer (header n) 2 (by omega) with ⟨i, hi, h⟩ | ⟨j, hj1, hj2, h⟩
  · exact ⟨i, h, Or.inl hi⟩
  · obtain rfl | rfl : j = 1 ∨ j = 2 := by omega
    · refine ⟨answer.length + 16, ?_, Or.inr (Or.inl rfl)⟩
      rw [h, hone, later_ofNat, Nat.add_comm]
    · refine ⟨answer.length + 18, ?_, Or.inr (Or.inr rfl)⟩
      rw [h, htwo, later_ofNat, Nat.add_comm]

/-- and where its second end of a line is -/
theorem find_crlf_answer (answer : List UInt8) (n : ℕ) : ∃ i, findStrAt crlf 2 (answer ++ header n) = (2, UInt16.ofNat i) ∧
    (i ≤ answer.length ∨ i = answer.length + 19 + (decimal n).length) := by
  have hone := find_crlf_one n []
  have htwo := find_crlf_two n []
  rw [List.append_nil] at hone htwo
  rcases findStrAt_append crlf answer (header n) 2 (by omega) with ⟨i, hi, h⟩ | ⟨j, hj1, hj2, h⟩
  · exact ⟨i, h, Or.inl (by omega)⟩
  · obtain rfl | rfl : j = 1 ∨ j = 2 := by omega
    · refine ⟨answer.length, ?_, Or.inl le_rfl⟩
      rw [h, hone, later_ofNat, Nat.zero_add]
    · refine ⟨answer.length + 19 + (decimal n).length, ?_, Or.inr rfl⟩
      rw [h, htwo, later_ofNat, Nat.add_comm, Nat.add_assoc]

/-- the length field read at an answer with a notice behind it, when it fits `temp_buf` -/
theorem tempBuf_answer {answer more : List UInt8} {n : ℕ} (hne : answer ≠ []) (h0 : 0 ∉ answer)
    (hlen : answer.length ≤ CMD_BUF_MAX_LEN) (hn : n ≤ 1500)
    (h : memory.drop pos.toNat = answer ++ header n ++ 0 :: more) (hfits : (tempBuf memory pos).length ≤ 7) :
    atoi (tempBuf memory pos) = 0 ∨ (tempBuf memory pos).length < answer.length + (decimal n).length := by
  have hpos : 0 < answer.length := List.length_pos_iff.2 hne
  have hdigits := length_decimal_le hn
  have hmax : CMD_BUF_MAX_LEN = 512 := rfl
  have htext : textAt memory pos = answer ++ header n := by
    have h0' : 0 ∉ answer ++ header n := by
      rw [List.mem_append, not_or]
      exact ⟨h0, not_mem_header n⟩
    rw [textAt, h, cstr_append h0']
    exact List.append_nil _
  have hnat : ∀ i ≤ 600, (UInt16.ofNat i).toNat = i := fun i hi => by
    rw [UInt16.toNat_ofNat']
    exact Nat.mod_eq_of_lt (by omega)
  obtain ⟨i1, hcomma, hi1⟩ := find_comma_answer answer n
  obtain ⟨i2, hcrlf, hi2⟩ := find_crlf_answer answer n
  have htemp : tempBuf memory pos = ((answer ++ header n).drop (i1 + 1)).take (i2 - i1 - 1) := by
    rw [tempBuf, htext, getStr1, hcomma, hcrlf]
    dsimp only
    rw [if_pos ⟨one_ne_zero, two_ne_zero⟩, hnat i1 (by omega), hnat i2 (by omega)]
  have hfield : (tempBuf memory pos).length = min (i2 - i1 - 1) (answer.length + (21 + (decimal n).length) - (i1 + 1)) := by
    rw [htemp, List.length_take, List.length_drop, List.length_append, length_header]
  rcases hi1 with hi1 | rfl | rfl
  · exact Or.inr (by omega)
  · -- the field begins with the connection number
    have hdrop : (answer ++ header n).drop (answer.length + 16 + 1) = 0x30 :: 0x2C :: (decimal n ++ crlf) := by
      rw [Nat.add_assoc, ← List.drop_drop, List.drop_left]
      rfl
    have hprefix : tempBuf memory pos <+: 0x30 :: 0x2C :: (decimal n ++ crlf) := by
      rw [htemp, hdrop]
      exact List.take_prefix _ _
    exact Or.inl (atoi_zero (by decide) hprefix)
  · exact Or.inr (by omega)

/-- **An answer before a notice** of zero bytes: whatever the loop reads there, it is not the payload. -/
theorem misread {answer more : List UInt8} {n : ℕ} (hne : answer ≠ []) (h0 : 0 ∉ answer)
    (hlen : answer.length ≤ CMD_BUF_MAX_LEN) (hpos : 1 ≤ n) (hn : n ≤ 1500)
    (h : memory.drop pos.toNat = answer ++ header n ++ 0 :: more) :
    IsNotice memory pos ∧
      ((tempBuf memory pos).length ≤ 7 → ∀ k, (datagramAt memory pos).take k ≠ List.replicate n 0) := by
  have h0' : 0 ∉ answer ++ header n := by
    rw [List.mem_append, not_or]
    exact ⟨h0, not_mem_header n⟩
  have htext : textAt memory pos = answer ++ header n := by
    rw [textAt, h, cstr_append h0']
    exact List.append_nil _
  have hsuffix : header n <:+: answer ++ header n := (List.suffix_append answer (header n)).isInfix
  refine ⟨⟨?_, ?_⟩, fun hfits k heq => ?_⟩
  · rw [htext]
    exact (qiurc_infix_header n).trans hsuffix
  · rw [htext]
    exact (recv_infix_header n).trans hsuffix
  · obtain ⟨n, rfl⟩ : ∃ m, n = m + 1 := ⟨n - 1, by omega⟩
    have hlenLen : (lenLen memory pos).toNat = (tempBuf memory pos).length := by
      rw [lenLen, UInt8.toNat_ofNat']
      exact Nat.mod_eq_of_lt (by omega)
    rw [datagramAt, bytesAt, hlenLen, List.take_take, List.replicate_succ] at heq
    rcases tempBuf_answer hne h0 hlen hn h hfits with hzero | hshort
    · -- nothing is read
      have hrecv : recvLen memory pos = 0 := by
        rw [recvLen, hzero]
        rfl
      rw [hrecv] at heq
      simp at heq
    · -- the first byte read is one of the answer or of the header
      have hdrop : memory.drop (pos.toNat + 21 + (tempBuf memory pos).length) =
          (answer ++ header (n + 1)).drop (21 + (tempBuf memory pos).length) ++ 0 :: more := by
        rw [Nat.add_assoc, ← List.drop_drop, h, List.drop_append_of_le_length]
        rw [List.length_append, length_header]
        omega
      have hcut : 21 + (tempBuf memory pos).length < (answer ++ header (n + 1)).length := by
        rw [List.length_append, length_header]
        omega
      rw [hdrop, List.drop_eq_getElem_cons hcut] at heq
      cases hcount : min k (recvLen memory pos).toNat with
      | zero =>
        rw [hcount] at heq
        cases heq
      | succ m =>
        rw [hcount, List.cons_append, List.cons_append, List.take_succ_cons, List.cons.injEq] at heq
        exact h0' (heq.1 ▸ List.getElem_mem hcut)

end DataConcentrator.Modem
