import CiaoDatastore.Net
import Mathlib.Data.Nat.Bitwise
import Mathlib.Tactic.NormNum

/-! Address arithmetic under the model's `net` functions: what a prefix mask keeps of an
address, how an address advances inside its subnet without leaving it, and that the texts the
datastore writes are read back as they were: `ParseIP (ipString ip) = some ip`, and the
tenant range `172.16.0.0/<SubnetBits>` parses to its masked base. Masks of prefixes nest, so
two prefixes share an address exactly when one contains the other's: the test of
`isDuplicateSubnet` is an overlap test. `incrementIP` adds one to the big-endian value of a
slice of any length, modulo its width, and rewrites only the bytes its carry reaches. -/
namespace CiaoDatastore.Net

theorem toNat_add (a b : UInt32) : (a + b).toNat = (a.toNat + b.toNat) % 2 ^ 32 := BitVec.toNat_add ..

theorem le_iff (a b : UInt32) : a ≤ b ↔ a.toNat ≤ b.toNat := Iff.rfl

private theorem and_high_bits {x k : Nat} (bound : x < 2 ^ 32) (small : k ≤ 32) :
    x &&& (2 ^ 32 - 2 ^ k) = x / 2 ^ k * 2 ^ k := by
  have high : 2 ^ 32 - 2 ^ k = (2 ^ (32 - k) - 1) <<< k := by
    rw [Nat.shiftLeft_eq, Nat.sub_mul, one_mul, ← pow_add, Nat.sub_add_cancel small]
  rw [high, ← Nat.shiftRight_eq_div_pow, ← Nat.shiftLeft_eq]
  apply Nat.eq_of_testBit_eq
  intro i
  simp only [Nat.testBit_and,Nat.testBit_shiftLeft,Nat.testBit_two_pow_sub_one,Nat.testBit_shiftRight]
  by_cases low : k ≤ i
  · by_cases top : i < 32
    · simp [low,top,Nat.add_sub_cancel' low]; omega
    · have above : x.testBit i = false :=
        Nat.testBit_lt_two_pow (lt_of_lt_of_le bound (Nat.pow_le_pow_right (by norm_num) (by omega)))
      simp [low,above]
  · simp [low]

private theorem mask_toNat (x : UInt32) {ones : Nat} (small : ones ≤ 32) :
    (x &&& mask ones).toNat = x.toNat / 2 ^ (32 - ones) * 2 ^ (32 - ones) := by
  have pos : 0 < 2 ^ (32 - ones) := Nat.pos_pow_of_pos _ (by norm_num)
  rw [UInt32.and_toNat,mask,UInt32.toNat_ofNat_of_lt (show _ < 2 ^ 32 by omega)]
  exact and_high_bits x.toNat_lt_size (by omega)

theorem mask_aligned (x : UInt32) {ones : Nat} (small : ones ≤ 32) :
    (x &&& mask ones).toNat % 2 ^ (32 - ones) = 0 := by
  rw [mask_toNat x small]
  exact Nat.mul_mod_left _ _

theorem aligned_of_masked {x : UInt32} {ones : Nat} (small : ones ≤ 32) (masked : x &&& mask ones = x) :
    x.toNat % 2 ^ (32 - ones) = 0 := by
  rw [← masked]
  exact mask_aligned x small

theorem masked_of_aligned {x : UInt32} {ones : Nat} (small : ones ≤ 32) (aligned : x.toNat % 2 ^ (32 - ones) = 0) :
    x &&& mask ones = x :=
  UInt32.toNat.inj (by rw [mask_toNat x small,Nat.div_mul_cancel (Nat.dvd_of_mod_eq_zero aligned)])

private theorem mask_min (ones : Nat) : mask ones = mask (min ones 32) := by
  rw [mask,mask,show 32 - ones = 32 - min ones 32 by omega]

private theorem div_mul_div_mul (x d f : Nat) (pos : 0 < d) : x / d * d / (d * f) = x / (d * f) := by
  rw [← Nat.div_div_eq_div_mul,Nat.mul_div_cancel _ pos,Nat.div_div_eq_div_mul]

theorem mask_nested (x : UInt32) {m n : Nat} (shorter : m ≤ n) : x &&& mask n &&& mask m = x &&& mask m := by
  rw [mask_min n,mask_min m]
  apply UInt32.toNat.inj
  rw [mask_toNat _ (min_le_right _ _),mask_toNat _ (min_le_right _ _),mask_toNat _ (min_le_right _ _)]
  have split : 2 ^ (32 - min m 32) = 2 ^ (32 - min n 32) * 2 ^ (min n 32 - min m 32) := by
    rw [← pow_add]; congr 1; omega
  rw [split,div_mul_div_mul _ _ _ (Nat.pos_pow_of_pos _ (by norm_num))]

@[simp] theorem IPNet.contains_self (n : IPNet) : n.contains n.ip = true := by
  simp [IPNet.contains]

theorem contains_ip_of_shared {A B : IPNet} {x : UInt32} (inA : A.contains x = true) (inB : B.contains x = true) :
    A.contains B.ip = true ∨ B.contains A.ip = true := by
  simp only [IPNet.contains,beq_iff_eq] at inA inB ⊢
  rcases le_total A.ones B.ones with shorter | shorter
  · left; rw [← mask_nested B.ip shorter,← inB,mask_nested x shorter,inA]
  · right; rw [← mask_nested A.ip shorter,← inA,mask_nested x shorter,inB]

private theorem aligned_room {x : UInt32} {ones : Nat} (small : ones ≤ 32) (aligned : x.toNat % 2 ^ (32 - ones) = 0) :
    x.toNat + 2 ^ (32 - ones) ≤ 2 ^ 32 := by
  obtain ⟨q,hq⟩ := Nat.dvd_of_mod_eq_zero aligned
  have whole : 2 ^ 32 = 2 ^ (32 - ones) * 2 ^ ones := by rw [← pow_add, Nat.sub_add_cancel small]
  have below : 2 ^ (32 - ones) * q < 2 ^ (32 - ones) * 2 ^ ones := hq ▸ whole ▸ x.toNat_lt_size
  have : q + 1 ≤ 2 ^ ones := Nat.lt_of_mul_lt_mul_left below
  rw [hq,whole,← Nat.mul_succ]
  exact Nat.mul_le_mul_left _ this

theorem offset_in_subnet {start : UInt32} {ones : Nat} (host : Nat) (small : ones ≤ 32)
    (aligned : start.toNat % 2 ^ (32 - ones) = 0) (inside : host < 2 ^ (32 - ones)) :
    (start + UInt32.ofNat host).toNat = start.toNat + host ∧ (start + UInt32.ofNat host) &&& mask ones = start := by
  have room := aligned_room small aligned
  have sum : (start + UInt32.ofNat host).toNat = start.toNat + host := by
    rw [toNat_add,UInt32.toNat_ofNat_of_lt (show host < 2 ^ 32 by omega)]
    exact Nat.mod_eq_of_lt (by omega)
  refine ⟨sum,UInt32.toNat.inj ?_⟩
  rw [mask_toNat _ small,sum,Nat.add_div_of_dvd_right (Nat.dvd_of_mod_eq_zero aligned),
    Nat.div_eq_of_lt inside,add_zero,Nat.div_mul_cancel (Nat.dvd_of_mod_eq_zero aligned)]

theorem cidrMask_eq {ones : Int} (low : 0 ≤ ones) (high : ones ≤ 32) : cidrMask ones = some (mask ones.toNat) := by
  simp [cidrMask,mask,low,high]

theorem mask_of_cidrMask {ones : Int} {m : UInt32} (h : cidrMask ones = some m) : m = mask ones.toNat := by
  unfold cidrMask at h
  split at h
  · cases h; rfl
  · cases h

private theorem decimal_digits_facts : ∀ k < 10, (Nat.digitChar k).isDigit = true ∧
    (Nat.digitChar k).toNat - '0'.toNat = k := by decide

private theorem toDigitsCore_decimal (fuel n : Nat) (ds : List Char) (enough : n < fuel)
    (digits : ds.all Char.isDigit = true) :
    (Nat.toDigitsCore 10 fuel n ds).all Char.isDigit = true ∧ Nat.toDigitsCore 10 fuel n ds ≠ [] ∧
    (Nat.toDigitsCore 10 fuel n ds).foldl (fun n c => 10 * n + (c.toNat - '0'.toNat)) 0 =
      ds.foldl (fun n c => 10 * n + (c.toNat - '0'.toNat)) n := by
  induction fuel generalizing n ds with
  | zero => omega
  | succ fuel ih =>
    obtain ⟨isDigit,value⟩ := decimal_digits_facts (n % 10) (Nat.mod_lt _ (by norm_num))
    rw [show Nat.toDigitsCore 10 (fuel + 1) n ds = if n / 10 = 0 then Nat.digitChar (n % 10) :: ds
      else Nat.toDigitsCore 10 fuel (n / 10) (Nat.digitChar (n % 10) :: ds) from rfl]
    split
    · refine ⟨by simp [isDigit,digits],List.cons_ne_nil _ _,?_⟩
      simp only [List.foldl_cons,value]
      congr 1; omega
    · obtain ⟨all,nonempty,fold⟩ := ih (n / 10) (Nat.digitChar (n % 10) :: ds) (by omega)
        (by simp [isDigit,digits])
      refine ⟨all,nonempty,?_⟩
      rw [fold,List.foldl_cons,value]
      congr 1; omega

private theorem decimal_toString (n : Nat) : decimal (toString n).data = some n := by
  obtain ⟨all,nonempty,fold⟩ := toDigitsCore_decimal (n + 1) n [] (by omega) rfl
  show (if _ then _ else _) = _
  rw [if_pos ⟨nonempty,all⟩]
  exact congrArg some fold

private theorem toString_no_sep (n : Nat) {sep : Char} (notDigit : sep.isDigit = false) :
    ∀ c ∈ (toString n).data, c ≠ sep := by
  rintro c mem rfl
  have := List.all_eq_true.mp (toDigitsCore_decimal (n + 1) n [] (by omega) rfl).1 c mem
  simp_all

private theorem fields_of_not_mem (sep : Char) (a : List Char) (none : ∀ c ∈ a, c ≠ sep) : fields sep a = [a] := by
  induction a with
  | nil => rfl
  | cons c a ih =>
    simp only [List.mem_cons,forall_eq_or_imp] at none
    simp [fields,none.1,ih none.2]

private theorem fields_append (sep : Char) (a rest : List Char) (none : ∀ c ∈ a, c ≠ sep) :
    fields sep (a ++ sep :: rest) = a :: fields sep rest := by
  induction a with
  | nil => simp [fields]
  | cons c a ih =>
    simp only [List.mem_cons,forall_eq_or_imp] at none
    simp [fields,none.1,ih none.2]

private theorem bytes_recombine (n : Nat) (small : n < 4294967296) :
    ((n / 16777216 % 256 * 256 + n / 65536 % 256) * 256 + n / 256 % 256) * 256 + n % 256 = n := by
  have peel := fun k => (Nat.div_div_eq_div_mul n k 256) ▸ Nat.div_add_mod' (n / k) 256
  rw [Nat.mod_eq_of_lt (Nat.div_lt_of_lt_mul small),peel 65536,peel 256,Nat.div_add_mod']

/-- `net.ParseIP` reads back every address `IP.String` writes. -/
theorem ParseIP_ipString (ip : UInt32) : ParseIP (ipString ip) = some ip := by
  have bound : ip.toNat < 4294967296 := ip.toNat_lt_size
  have noDot := fun n => toString_no_sep n (show ('.' : Char).isDigit = false from rfl)
  have byte := fun n => Nat.le_of_lt_succ (Nat.mod_lt n (show 256 > 0 by decide))
  simp only [ParseIP,ipString,bytes,Nat.reducePow,List.map_cons,List.map_nil,String.intercalate,
    String.intercalate.go,String.data_append]
  simp only [parseIPv4,List.append_assoc,show ".".data = ['.'] from rfl,List.singleton_append,
    List.cons_append,List.nil_append,fields_append _ _ _ (noDot _),fields_of_not_mem _ _ (noDot _),
    List.map_cons,List.map_nil,decimal_toString]
  rw [if_pos ⟨byte _,byte _,byte _,byte _⟩,bytes_recombine _ bound]
  exact congrArg some (UInt32.toNat.inj (UInt32.toNat_ofNat_of_lt bound))

theorem ParseCIDR_tenantRange (ones : Nat) (small : ones ≤ 32) :
    ParseCIDR ("172.16.0.0/" ++ toString (ones : Int)) = some (2886729728,⟨2886729728 &&& mask ones,ones⟩) := by
  have noSlash : ∀ c ∈ "172.16.0.0".data, c ≠ '/' := by decide
  have split : ("172.16.0.0/" ++ toString (ones : Int)).data = "172.16.0.0".data ++ '/' :: (toString ones).data := by
    simp only [String.data_append]; rfl
  simp only [ParseCIDR,split,fields_append _ _ _ noSlash,fields_of_not_mem _ _
    (toString_no_sep ones (show ('/' : Char).isDigit = false from rfl)),
    decimal_toString,show parseIPv4 "172.16.0.0".data = some 2886729728 from rfl,if_pos small]

/-- The big-endian value of a byte slice. -/
def bigEndian (b : List UInt8) : Nat := b.foldl (fun n byte => 256 * n + byte.toNat) 0

/-- The `n` bytes of `v`, most significant first. -/
def bytesOf : Nat → Nat → List UInt8
  | 0,_ => []
  | n + 1,v => bytesOf n (v / 256) ++ [UInt8.ofNat (v % 256)]

private theorem bigEndian_append (l : List UInt8) (b : UInt8) : bigEndian (l ++ [b]) = 256 * bigEndian l + b.toNat := by
  simp [bigEndian]

private theorem bigEndian_lt (l : List UInt8) : bigEndian l < 2 ^ (8 * l.length) := by
  induction l using List.reverseRecOn with
  | nil => decide
  | append_singleton l b ih =>
    have byte : b.toNat < 256 := b.toNat_lt_size
    rw [bigEndian_append,List.length_append,List.length_singleton,Nat.mul_succ,Nat.pow_add]
    omega

private theorem bytesOf_bigEndian (l : List UInt8) : bytesOf l.length (bigEndian l) = l := by
  induction l using List.reverseRecOn with
  | nil => rfl
  | append_singleton l b ih =>
    have byte : b.toNat < 256 := b.toNat_lt_size
    rw [bigEndian_append,List.length_append,List.length_singleton,bytesOf,
      show (256 * bigEndian l + b.toNat) / 256 = bigEndian l by omega,
      show (256 * bigEndian l + b.toNat) % 256 = b.toNat by omega,ih,
      UInt8.toNat.inj (UInt8.toNat_ofNat_of_lt byte)]

private theorem incrementReversed_length (r : List UInt8) : (incrementReversed r).length = r.length := by
  induction r with
  | nil => rfl
  | cons b rest ih => simp only [incrementReversed]; split <;> simp [ih]

private theorem byte_succ (b : UInt8) : (b + 1).toNat = (b.toNat + 1) % 256 ∧ (b + 1 > 0 ↔ b.toNat ≠ 255) := by
  have sum : (b + 1).toNat = (b.toNat + 1) % 256 := BitVec.toNat_add ..
  have byte : b.toNat < 256 := b.toNat_lt_size
  refine ⟨sum,?_⟩
  show 0 < (b + 1).toNat ↔ _
  omega

private theorem incrementReversed_value (r : List UInt8) :
    bigEndian (incrementReversed r).reverse = (bigEndian r.reverse + 1) % 2 ^ (8 * r.length) := by
  induction r with
  | nil => rfl
  | cons b rest ih =>
    have below := bigEndian_lt rest.reverse
    rw [List.length_reverse] at below
    have byte : b.toNat < 256 := b.toNat_lt_size
    have width : 2 ^ (8 * (rest.length + 1)) = 256 * 2 ^ (8 * rest.length) := by
      rw [Nat.mul_succ,Nat.pow_add,Nat.mul_comm]
    obtain ⟨sum,carry⟩ := byte_succ b
    simp only [incrementReversed,List.reverse_cons,List.length_cons,width,bigEndian_append]
    split <;> simp only [List.reverse_cons,bigEndian_append]
    · have kept := carry.mp ‹_›
      rw [sum,Nat.mod_eq_of_lt (show b.toNat + 1 < 256 by omega),Nat.mod_eq_of_lt (by omega)]
      omega
    · have wrapped : b.toNat = 255 := Decidable.of_not_not (mt carry.mpr ‹_›)
      rw [ih,UInt8.toNat_zero,wrapped,Nat.add_zero,Nat.add_assoc,
        show 255 + 1 = 256 * 1 from rfl,← Nat.mul_add,Nat.mul_mod_mul_left]

private theorem incrementReversed_carry (m : Nat) (rest : List UInt8) :
    incrementReversed (List.replicate m 255 ++ rest) = List.replicate m 0 ++ incrementReversed rest := by
  induction m with
  | zero => rfl
  | succ m ih => rw [List.replicate_succ,List.cons_append,incrementReversed,if_neg (by decide),ih]; rfl

private theorem incrementIP_trailing (pre : List UInt8) {b : UInt8} (below : b ≠ 255) (m : Nat) :
    incrementIP (pre ++ b :: List.replicate m 255) = pre ++ (b + 1) :: List.replicate m 0 := by
  have kept : b + 1 > 0 := (byte_succ b).2.mpr fun same => below (UInt8.toNat.inj same)
  simp [incrementIP,incrementReversed_carry,incrementReversed,kept]

private theorem incrementIP_all_ones (n : Nat) : incrementIP (List.replicate n 255) = List.replicate n 0 := by
  have carried := incrementReversed_carry n []
  rw [List.append_nil,incrementReversed,List.append_nil] at carried
  rw [incrementIP,List.reverse_replicate,carried,List.reverse_replicate]

/-- `incrementIP` writes the encoding of the slice's value plus one, modulo its width; the bytes
before the last one below 255 stay, that byte gains one and the 255s after it become 0, and a
slice of 255s becomes 0s. -/
theorem incrementIP_increments (ip : List UInt8) :
    incrementIP ip = bytesOf ip.length ((bigEndian ip + 1) % 2 ^ (8 * ip.length)) ∧
    (∀ pre b m, ip = pre ++ b :: List.replicate m 255 → b ≠ 255 →
      incrementIP ip = pre ++ (b + 1) :: List.replicate m 0) ∧
    (ip = List.replicate ip.length 255 → incrementIP ip = List.replicate ip.length 0) := by
  have length : (incrementIP ip).length = ip.length := by
    simp [incrementIP,incrementReversed_length]
  have value := incrementReversed_value ip.reverse
  rw [List.reverse_reverse,List.length_reverse] at value
  refine ⟨?_,fun pre b m split below => split ▸ incrementIP_trailing pre below m,fun ones => ones ▸ ?_⟩
  · rw [← bytesOf_bigEndian (incrementIP ip),length]
    exact congrArg _ value
  · rw [List.length_replicate]; exact incrementIP_all_ones _

example : incrementIP [10,0,0,255] = [10,0,1,0] := by decide

end CiaoDatastore.Net
