import ChatLine.Builtin.Alias
import ChatLine.Builtin.Choose
import ChatLine.Builtin.Eval
import ChatLine.Builtin.Help
import ChatLine.Builtin.Parameter
import ChatLine.Builtin.Plain
import ChatLine.Builtin.Signature
import ChatLine.Builtin.Take

set_option autoImplicit false

namespace ChatLine.Builtin

def documentation : Builtin → Documentation
  | eval => Eval.documentation
  | choose => Choose.documentation
  | take => Take.documentation
  | print => Print.documentation
  | random => Random.documentation
  | help _ => Help.documentation
  | parameter => Parameter.documentation
  | showTree => ShowTree.documentation
  | runAll => RunAll.documentation
  | aliasAdd => AliasAdd.documentation
  | aliasRemove => AliasRemove.documentation
  | aliasShow => AliasShow.documentation
  | aliasList => AliasList.documentation

/-- A command is documented under the words that call it. -/
theorem path_documentation (builtin : Builtin) : builtin.documentation.path = builtin.path := by
  cases builtin <;> rfl

def documented (builtin : Builtin) : Documented :=
  ⟨builtin.documentation, builtin.function⟩

def catalog (bot : String) : List Documented :=
  [eval, choose, take, print, random, help bot, parameter, showTree, runAll, aliasAdd, aliasRemove,
   aliasShow, aliasList].map documented

def native {σ : Type} : Builtin → Bindings → Native σ Value
  | eval => Eval.code
  | choose => Choose.code
  | take => Take.code
  | print => Print.code
  | random => Random.code
  | help bot => Help.code bot
  | parameter => Parameter.code
  | showTree => ShowTree.code
  | runAll => RunAll.code
  | aliasAdd => AliasAdd.code
  | aliasRemove => AliasRemove.code
  | aliasShow => AliasShow.code
  | aliasList => AliasList.code

end ChatLine.Builtin
