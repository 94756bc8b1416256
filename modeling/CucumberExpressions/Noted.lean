/-! Values with the notices that were written while they were made, oldest first. -/

namespace CucumberExpressions

structure Noted (ν α : Type) where
  value : α
  notices : List ν
  deriving DecidableEq, Repr

namespace Noted

variable {ν α β : Type}

instance : Monad (Noted ν) where
  pure a := ⟨a, []⟩
  map f x := ⟨f x.value, x.notices⟩
  bind x f := ⟨(f x.value).value, x.notices ++ (f x.value).notices⟩

def note (n : ν) (a : α) : Noted ν α := ⟨a, [n]⟩

@[simp] theorem value_pure (a : α) : (pure a : Noted ν α).value = a := rfl

@[simp] theorem notices_pure (a : α) : (pure a : Noted ν α).notices = [] := rfl

@[simp] theorem value_bind (x : Noted ν α) (f : α → Noted ν β) :
    (x >>= f).value = (f x.value).value := rfl

@[simp] theorem notices_bind (x : Noted ν α) (f : α → Noted ν β) :
    (x >>= f).notices = x.notices ++ (f x.value).notices := rfl

@[simp] theorem value_map (f : α → β) (x : Noted ν α) : (f <$> x).value = f x.value := rfl

@[simp] theorem notices_map (f : α → β) (x : Noted ν α) : (f <$> x).notices = x.notices := rfl

@[simp] theorem value_note (n : ν) (a : α) : (note n a).value = a := rfl

@[simp] theorem notices_note (n : ν) (a : α) : (note n a).notices = [n] := rfl

@[ext] theorem ext {x y : Noted ν α} (value : x.value = y.value) (notices : x.notices = y.notices) :
    x = y := by
  cases x
  cases y
  simp_all

instance : LawfulMonad (Noted ν) :=
  LawfulMonad.mk' _ (fun _ => rfl) (fun a f => by apply Noted.ext <;> simp)
    (fun x f g => by apply Noted.ext <;> simp) (fun _ _ => rfl)
    (fun x y => by apply Noted.ext <;> rfl) (fun x y => by apply Noted.ext <;> rfl)
    (fun f x => by apply Noted.ext <;> simp) (fun f x => by apply Noted.ext <;> rfl)

instance : MonadAttach (Noted ν) where
  CanReturn x a := x.value = a
  attach x := ⟨⟨x.value, rfl⟩, x.notices⟩

instance : WeaklyLawfulMonadAttach (Noted ν) where
  map_attach := rfl

end Noted

end CucumberExpressions
