import Console6502.Word

namespace Console6502

/-- A 64 KB address space. Each access hands back the bus it leaves, since a read may have effects
of its own. Inspection by `peek` is meant to have none where the memory can manage it. -/
class Bus (M : Type) where
  read : M → Address → Byte × M
  write : M → Address → Byte → M
  peek : M → Address → Byte × M

end Console6502
