import EngineActions.Action

namespace EngineActions.Shipped
open ValueType

def nwn2From636 : List Declaration := [
  declare 636 "ItemPropertyDamagePenalty" 1 itemProperty [int]
    "itemproperty ItemPropertyDamagePenalty(int nPenalty);",
  declare 637 "ItemPropertyDamageReduction" 2 itemProperty [int, int]
    "itemproperty ItemPropertyDamageReduction(int nEnhancement, int nHPSoak);",
  declare 638 "ItemPropertyDamageResistance" 2 itemProperty [int, int]
    "itemproperty ItemPropertyDamageResistance(int nDamageType, int nHPResist);",
  declare 639 "ItemPropertyDamageVulnerability" 2 itemProperty [int, int]
    "itemproperty ItemPropertyDamageVulnerability(int nDamageType, int nVulnerability);",
  declare 640 "ItemPropertyDarkvision" 0 itemProperty []
    "itemproperty ItemPropertyDarkvision();",
  declare 641 "ItemPropertyDecreaseAbility" 2 itemProperty [int, int]
    "itemproperty ItemPropertyDecreaseAbility(int nAbility, int nModifier);",
  declare 642 "ItemPropertyDecreaseAC" 2 itemProperty [int, int]
    "itemproperty ItemPropertyDecreaseAC(int nModifierType, int nPenalty);",
  declare 643 "ItemPropertyDecreaseSkill" 2 itemProperty [int, int]
    "itemproperty ItemPropertyDecreaseSkill(int nSkill, int nPenalty);",
  declare 644 "ItemPropertyContainerReducedWeight" 1 itemProperty [int]
    "itemproperty ItemPropertyContainerReducedWeight(int nContainerType);",
  declare 645 "ItemPropertyExtraMeleeDamageType" 1 itemProperty [int]
    "itemproperty ItemPropertyExtraMeleeDamageType(int nDamageType);",
  declare 646 "ItemPropertyExtraRangeDamageType" 1 itemProperty [int]
    "itemproperty ItemPropertyExtraRangeDamageType(int nDamageType);",
  declare 647 "ItemPropertyHaste" 0 itemProperty []
    "itemproperty ItemPropertyHaste();",
  declare 648 "ItemPropertyHolyAvenger" 0 itemProperty []
    "itemproperty ItemPropertyHolyAvenger();",
  declare 649 "ItemPropertyImmunityMisc" 1 itemProperty [int]
    "itemproperty ItemPropertyImmunityMisc(int nImmunityType);",
  declare 650 "ItemPropertyImprovedEvasion" 0 itemProperty []
    "itemproperty ItemPropertyImprovedEvasion();",
  declare 651 "ItemPropertyBonusSpellResistance" 1 itemProperty [int]
    "itemproperty ItemPropertyBonusSpellResistance(int nBonus);",
  declare 652 "ItemPropertyBonusSavingThrowVsX" 2 itemProperty [int, int]
    "itemproperty ItemPropertyBonusSavingThrowVsX(int nBonusType, int nBonus);",
  declare 653 "ItemPropertyBonusSavingThrow" 2 itemProperty [int, int]
    "itemproperty ItemPropertyBonusSavingThrow(int nBaseSaveType, int nBonus);",
  declare 654 "ItemPropertyKeen" 0 itemProperty []
    "itemproperty ItemPropertyKeen();",
  declare 655 "ItemPropertyLight" 2 itemProperty [int, int]
    "itemproperty ItemPropertyLight(int nBrightness, int nColor);",
  declare 656 "ItemPropertyMaxRangeStrengthMod" 1 itemProperty [int]
    "itemproperty ItemPropertyMaxRangeStrengthMod(int nModifier);",
  declare 657 "ItemPropertyNoDamage" 0 itemProperty []
    "itemproperty ItemPropertyNoDamage();",
  declare 658 "ItemPropertyOnHitProps" 2 itemProperty [int, int, int]
    "itemproperty ItemPropertyOnHitProps(int nProperty, int nSaveDC, int nSpecial=0);",
  declare 659 "ItemPropertyReducedSavingThrowVsX" 2 itemProperty [int, int]
    "itemproperty ItemPropertyReducedSavingThrowVsX(int nBaseSaveType, int nPenalty);",
  declare 660 "ItemPropertyReducedSavingThrow" 2 itemProperty [int, int]
    "itemproperty ItemPropertyReducedSavingThrow(int nBonusType, int nPenalty);",
  declare 661 "ItemPropertyRegeneration" 1 itemProperty [int]
    "itemproperty ItemPropertyRegeneration(int nRegenAmount);",
  declare 662 "ItemPropertySkillBonus" 2 itemProperty [int, int]
    "itemproperty ItemPropertySkillBonus(int nSkill, int nBonus);",
  declare 663 "ItemPropertySpellImmunitySpecific" 1 itemProperty [int]
    "itemproperty ItemPropertySpellImmunitySpecific(int nSpell);",
  declare 664 "ItemPropertySpellImmunitySchool" 1 itemProperty [int]
    "itemproperty ItemPropertySpellImmunitySchool(int nSchool);",
  declare 665 "ItemPropertyThievesTools" 1 itemProperty [int]
    "itemproperty ItemPropertyThievesTools(int nModifier);",
  declare 666 "ItemPropertyAttackBonus" 1 itemProperty [int]
    "itemproperty ItemPropertyAttackBonus(int nBonus);",
  declare 667 "ItemPropertyAttackBonusVsAlign" 2 itemProperty [int, int]
    "itemproperty ItemPropertyAttackBonusVsAlign(int nAlignGroup, int nBonus);",
  declare 668 "ItemPropertyAttackBonusVsRace" 2 itemProperty [int, int]
    "itemproperty ItemPropertyAttackBonusVsRace(int nRace, int nBonus);",
  declare 669 "ItemPropertyAttackBonusVsSAlign" 2 itemProperty [int, int]
    "itemproperty ItemPropertyAttackBonusVsSAlign(int nAlignment, int nBonus);",
  declare 670 "ItemPropertyAttackPenalty" 1 itemProperty [int]
    "itemproperty ItemPropertyAttackPenalty(int nPenalty);",
  declare 671 "ItemPropertyUnlimitedAmmo" 0 itemProperty [int]
    "itemproperty ItemPropertyUnlimitedAmmo(int nDamage=IP_CONST_UNLIMITEDAMMO_BASIC);",
  declare 672 "ItemPropertyLimitUseByAlign" 1 itemProperty [int]
    "itemproperty ItemPropertyLimitUseByAlign(int nAlignGroup);",
  declare 673 "ItemPropertyLimitUseByClass" 1 itemProperty [int]
    "itemproperty ItemPropertyLimitUseByClass(int nClass);",
  declare 674 "ItemPropertyLimitUseByRace" 1 itemProperty [int]
    "itemproperty ItemPropertyLimitUseByRace(int nRace);",
  declare 675 "ItemPropertyLimitUseBySAlign" 1 itemProperty [int]
    "itemproperty ItemPropertyLimitUseBySAlign(int nAlignment);",
  declare 676 "ItemPropertyBonusHitpoints" 1 itemProperty [int]
    "itemproperty ItemPropertyBonusHitpoints(int nBonusType);",
  declare 677 "ItemPropertyVampiricRegeneration" 1 itemProperty [int]
    "itemproperty ItemPropertyVampiricRegeneration(int nRegenAmount);",
  declare 678 "ItemPropertyTrap" 2 itemProperty [int, int]
    "itemproperty ItemPropertyTrap(int nTrapLevel, int nTrapType);",
  declare 679 "ItemPropertyTrueSeeing" 0 itemProperty []
    "itemproperty ItemPropertyTrueSeeing();",
  declare 680 "ItemPropertyOnMonsterHitProperties" 1 itemProperty [int, int]
    "itemproperty ItemPropertyOnMonsterHitProperties(int nProperty, int nSpecial=0);",
  declare 681 "ItemPropertyTurnResistance" 1 itemProperty [int]
    "itemproperty ItemPropertyTurnResistance(int nModifier);",
  declare 682 "ItemPropertyMassiveCritical" 1 itemProperty [int]
    "itemproperty ItemPropertyMassiveCritical(int nDamage);",
  declare 683 "ItemPropertyFreeAction" 0 itemProperty []
    "itemproperty ItemPropertyFreeAction();",
  declare 684 "ItemPropertyMonsterDamage" 1 itemProperty [int]
    "itemproperty ItemPropertyMonsterDamage(int nDamage);",
  declare 685 "ItemPropertyImmunityToSpellLevel" 1 itemProperty [int]
    "itemproperty ItemPropertyImmunityToSpellLevel(int nLevel);",
  declare 686 "ItemPropertySpecialWalk" 0 itemProperty [int]
    "itemproperty ItemPropertySpecialWalk(int nWalkType=0);",
  declare 687 "ItemPropertyHealersKit" 1 itemProperty [int]
    "itemproperty ItemPropertyHealersKit(int nModifier);",
  declare 688 "ItemPropertyWeightIncrease" 1 itemProperty [int]
    "itemproperty ItemPropertyWeightIncrease(int nWeight);",
  declare 689 "GetIsSkillSuccessful" 3 int [object, int, int]
    "int GetIsSkillSuccessful(object oTarget, int nSkill, int nDifficulty);",
  declare 690 "EffectSpellFailure" 0 effect [int, int]
    "effect EffectSpellFailure(int nPercent=100, int nSpellSchool=SPELL_SCHOOL_GENERAL);",
  declare 691 "SpeakStringByStrRef" 1 void [int, int]
    "void SpeakStringByStrRef(int nStrRef, int nTalkVolume=TALKVOLUME_TALK);",
  declare 692 "SetCutsceneMode" 1 void [object, int, int]
    "void SetCutsceneMode(object oCreature, int nInCutscene=TRUE, int nLeftClickingEnabled=FALSE);",
  declare 693 "GetLastPCToCancelCutscene" 0 object []
    "object GetLastPCToCancelCutscene();",
  declare 694 "GetDialogSoundLength" 1 float [int]
    "float GetDialogSoundLength(int nStrRef);",
  declare 695 "FadeFromBlack" 1 void [object, float]
    "void FadeFromBlack(object oCreature, float fSpeed=FADE_SPEED_MEDIUM);",
  declare 696 "FadeToBlack" 1 void [object, float]
    "void FadeToBlack(object oCreature, float fSpeed=FADE_SPEED_MEDIUM);",
  declare 697 "StopFade" 1 void [object]
    "void StopFade(object oCreature);",
  declare 698 "BlackScreen" 1 void [object]
    "void BlackScreen(object oCreature);",
  declare 699 "GetBaseAttackBonus" 1 int [object]
    "int GetBaseAttackBonus(object oCreature);",
  declare 700 "SetImmortal" 2 void [object, int]
    "void SetImmortal(object oCreature, int bImmortal);",
  declare 701 "OpenInventory" 2 void [object, object]
    "void OpenInventory(object oCreature, object oPlayer);",
  declare 702 "StoreCameraFacing" 0 void []
    "void StoreCameraFacing();",
  declare 703 "RestoreCameraFacing" 0 void []
    "void RestoreCameraFacing();",
  declare 704 "LevelUpHenchman" 1 int [object, int, int, int]
    "int LevelUpHenchman(object oCreature, int nClass=CLASS_TYPE_INVALID, int bReadyAllSpells=FALSE, int nPackage=PACKAGE_INVALID);",
  declare 705 "SetDroppableFlag" 2 void [object, int]
    "void SetDroppableFlag(object oItem, int bDroppable);",
  declare 706 "GetWeight" 0 int [object]
    "int GetWeight(object oTarget=OBJECT_SELF);",
  declare 707 "GetModuleItemAcquiredBy" 0 object []
    "object GetModuleItemAcquiredBy();",
  declare 708 "GetImmortal" 0 int [object]
    "int GetImmortal(object oTarget=OBJECT_SELF);",
  declare 709 "DoWhirlwindAttack" 0 void [int, int]
    "void DoWhirlwindAttack(int bDisplayFeedback=TRUE, int bImproved=FALSE);",
  declare 710 "Get2DAString" 3 string [string, string, int]
    "string Get2DAString(string s2DA, string sColumn, int nRow);",
  declare 711 "EffectEthereal" 0 effect []
    "effect EffectEthereal();",
  declare 712 "GetAILevel" 0 int [object]
    "int GetAILevel(object oTarget=OBJECT_SELF);",
  declare 713 "SetAILevel" 2 void [object, int]
    "void SetAILevel(object oTarget, int nAILevel);",
  declare 714 "GetIsPossessedFamiliar" 1 int [object]
    "int GetIsPossessedFamiliar(object oCreature);",
  declare 715 "UnpossessFamiliar" 1 void [object]
    "void UnpossessFamiliar(object oCreature);",
  declare 716 "GetIsAreaInterior" 0 int [object]
    "int GetIsAreaInterior(object oArea=OBJECT_INVALID);",
  declare 717 "SendMessageToPCByStrRef" 2 void [object, int]
    "void SendMessageToPCByStrRef(object oPlayer, int nStrRef);",
  declare 718 "IncrementRemainingFeatUses" 2 void [object, int]
    "void IncrementRemainingFeatUses(object oCreature, int nFeat);",
  declare 719 "ExportSingleCharacter" 1 void [object]
    "void ExportSingleCharacter(object oPlayer);",
  declare 720 "PlaySoundByStrRef" 1 void [int, int]
    "void PlaySoundByStrRef(int nStrRef, int nRunAsAction=TRUE);",
  declare 721 "SetSubRace" 2 void [object, string]
    "void SetSubRace(object oCreature, string sSubRace);",
  declare 722 "SetDeity" 2 void [object, string]
    "void SetDeity(object oCreature, string sDeity);",
  declare 723 "GetIsDMPossessed" 1 int [object]
    "int GetIsDMPossessed(object oCreature);",
  declare 724 "GetWeather" 1 int [object]
    "int GetWeather(object oArea);",
  declare 725 "GetIsAreaNatural" 1 int [object]
    "int GetIsAreaNatural(object oArea);",
  declare 726 "GetIsAreaAboveGround" 1 int [object]
    "int GetIsAreaAboveGround(object oArea);",
  declare 727 "GetPCItemLastEquipped" 0 object []
    "object GetPCItemLastEquipped();",
  declare 728 "GetPCItemLastEquippedBy" 0 object []
    "object GetPCItemLastEquippedBy();",
  declare 729 "GetPCItemLastUnequipped" 0 object []
    "object GetPCItemLastUnequipped();",
  declare 730 "GetPCItemLastUnequippedBy" 0 object []
    "object GetPCItemLastUnequippedBy();",
  declare 731 "CopyItemAndModify" 4 object [object, int, int, int, int]
    "object CopyItemAndModify(object oItem, int nType, int nIndex, int nNewValue, int bCopyVars=FALSE);",
  declare 732 "GetItemAppearance" 3 int [object, int, int]
    "int GetItemAppearance(object oItem, int nType, int nIndex);",
  declare 733 "ItemPropertyOnHitCastSpell" 2 itemProperty [int, int]
    "itemproperty ItemPropertyOnHitCastSpell(int nSpell, int nLevel);",
  declare 734 "GetItemPropertySubType" 1 int [itemProperty]
    "int GetItemPropertySubType(itemproperty iProperty);",
  declare 735 "GetActionMode" 2 int [object, int]
    "int GetActionMode(object oCreature, int nMode);",
  declare 736 "SetActionMode" 3 void [object, int, int]
    "void SetActionMode(object oCreature, int nMode, int nStatus);",
  declare 737 "GetArcaneSpellFailure" 1 int [object]
    "int GetArcaneSpellFailure(object oCreature);",
  declare 738 "ActionExamine" 1 void [object]
    "void ActionExamine(object oExamine);",
  declare 739 "ItemPropertyVisualEffect" 1 itemProperty [int]
    "itemproperty ItemPropertyVisualEffect(int nEffect);",
  declare 740 "SetLootable" 2 void [object, int]
    "void SetLootable(object oCreature, int bLootable);",
  declare 741 "GetLootable" 1 int [object]
    "int GetLootable(object oCreature);",
  declare 742 "GetCutsceneCameraMoveRate" 1 float [object]
    "float GetCutsceneCameraMoveRate(object oCreature);",
  declare 743 "SetCutsceneCameraMoveRate" 2 void [object, float]
    "void SetCutsceneCameraMoveRate(object oCreature, float fRate);",
  declare 744 "GetItemCursedFlag" 1 int [object]
    "int GetItemCursedFlag(object oItem);",
  declare 745 "SetItemCursedFlag" 2 void [object, int]
    "void SetItemCursedFlag(object oItem, int nCursed);",
  declare 746 "SetMaxHenchmen" 1 void [int]
    "void SetMaxHenchmen(int nNumHenchmen);",
  declare 747 "GetMaxHenchmen" 0 int []
    "int GetMaxHenchmen();",
  declare 748 "GetAssociateType" 1 int [object]
    "int GetAssociateType(object oAssociate);",
  declare 749 "GetSpellResistance" 1 int [object]
    "int GetSpellResistance(object oCreature);",
  declare 750 "DayToNight" 1 void [object, float]
    "void DayToNight(object oPlayer, float fTransitionTime=0.0f);",
  declare 751 "NightToDay" 1 void [object, float]
    "void NightToDay(object oPlayer, float fTransitionTime=0.0f);",
  declare 752 "LineOfSightObject" 2 int [object, object]
    "int LineOfSightObject(object oSource, object oTarget);",
  declare 753 "LineOfSightVector" 2 int [vector, vector]
    "int LineOfSightVector(vector vSource, vector vTarget);",
  declare 754 "GetLastSpellCastClass" 0 int []
    "int GetLastSpellCastClass();",
  declare 755 "SetBaseAttackBonus" 1 void [int, object]
    "void SetBaseAttackBonus(int nBaseAttackBonus, object oCreature=OBJECT_SELF);",
  declare 756 "RestoreBaseAttackBonus" 0 void [object]
    "void RestoreBaseAttackBonus(object oCreature=OBJECT_SELF);",
  declare 757 "EffectCutsceneGhost" 0 effect []
    "effect EffectCutsceneGhost();",
  declare 758 "ItemPropertyArcaneSpellFailure" 1 itemProperty [int]
    "itemproperty ItemPropertyArcaneSpellFailure(int nModLevel);",
  declare 759 "GetStoreGold" 1 int [object]
    "int GetStoreGold(object oidStore);",
  declare 760 "SetStoreGold" 2 void [object, int]
    "void SetStoreGold(object oidStore, int nGold);",
  declare 761 "GetStoreMaxBuyPrice" 1 int [object]
    "int GetStoreMaxBuyPrice(object oidStore);",
  declare 762 "SetStoreMaxBuyPrice" 2 void [object, int]
    "void SetStoreMaxBuyPrice(object oidStore, int nMaxBuy);",
  declare 763 "GetStoreIdentifyCost" 1 int [object]
    "int GetStoreIdentifyCost(object oidStore);",
  declare 764 "SetStoreIdentifyCost" 2 void [object, int]
    "void SetStoreIdentifyCost(object oidStore, int nCost);",
  declare 765 "SetCreatureAppearanceType" 2 void [object, int]
    "void SetCreatureAppearanceType(object oCreature, int nAppearanceType);",
  declare 766 "GetCreatureStartingPackage" 1 int [object]
    "int GetCreatureStartingPackage(object oCreature);",
  declare 767 "EffectCutsceneImmobilize" 0 effect []
    "effect EffectCutsceneImmobilize();",
  declare 768 "GetIsInSubArea" 1 int [object, object]
    "int GetIsInSubArea(object oCreature, object oSubArea=OBJECT_SELF);",
  declare 769 "GetItemPropertyCostTable" 1 int [itemProperty]
    "int GetItemPropertyCostTable(itemproperty iProp);",
  declare 770 "GetItemPropertyCostTableValue" 1 int [itemProperty]
    "int GetItemPropertyCostTableValue(itemproperty iProp);",
  declare 771 "GetItemPropertyParam1" 1 int [itemProperty]
    "int GetItemPropertyParam1(itemproperty iProp);",
  declare 772 "GetItemPropertyParam1Value" 1 int [itemProperty]
    "int GetItemPropertyParam1Value(itemproperty iProp);",
  declare 773 "GetIsCreatureDisarmable" 1 int [object]
    "int GetIsCreatureDisarmable(object oCreature);",
  declare 774 "SetStolenFlag" 2 void [object, int]
    "void SetStolenFlag(object oItem, int nStolenFlag);",
  declare 775 "ForceRest" 1 void [object]
    "void ForceRest(object oCreature);",
  declare 776 "SetCameraHeight" 1 void [object, float]
    "void SetCameraHeight(object oPlayer, float fHeight=0.0f);",
  declare 777 "SetSkyBox" 1 void [int, object]
    "void SetSkyBox(int nSkyBox, object oArea=OBJECT_INVALID);",
  declare 778 "GetPhenoType" 1 int [object]
    "int GetPhenoType(object oCreature);",
  declare 779 "SetPhenoType" 1 void [int, object]
    "void SetPhenoType(int nPhenoType, object oCreature=OBJECT_SELF);",
  declare 780 "SetFogColor" 2 void [int, int, object]
    "void SetFogColor(int nFogType, int nFogColor, object oArea=OBJECT_INVALID);",
  declare 781 "GetCutsceneMode" 0 int [object]
    "int GetCutsceneMode(object oCreature=OBJECT_SELF);",
  declare 782 "GetSkyBox" 0 int [object]
    "int GetSkyBox(object oArea=OBJECT_INVALID);",
  declare 783 "GetFogColor" 1 int [int, object]
    "int GetFogColor(int nFogType, object oArea=OBJECT_INVALID);",
  declare 784 "SetFogAmount" 2 void [int, int, object]
    "void SetFogAmount(int nFogType, int nFogAmount, object oArea=OBJECT_INVALID);",
  declare 785 "GetFogAmount" 1 int [int, object]
    "int GetFogAmount(int nFogType, object oArea=OBJECT_INVALID);",
  declare 786 "GetPickpocketableFlag" 1 int [object]
    "int GetPickpocketableFlag(object oItem);",
  declare 787 "SetPickpocketableFlag" 2 void [object, int]
    "void SetPickpocketableFlag(object oItem, int bPickpocketable);",
  declare 788 "GetFootstepType" 0 int [object]
    "int GetFootstepType(object oCreature=OBJECT_SELF);",
  declare 789 "SetFootstepType" 1 void [int, object]
    "void SetFootstepType(int nFootstepType, object oCreature=OBJECT_SELF);",
  declare 790 "GetCreatureWingType" 0 int [object]
    "int GetCreatureWingType(object oCreature=OBJECT_SELF);",
  declare 791 "SetCreatureWingType" 1 void [int, object]
    "void SetCreatureWingType(int nWingType, object oCreature=OBJECT_SELF);",
  declare 792 "GetCreatureBodyPart" 1 int [int, object]
    "int GetCreatureBodyPart(int nPart, object oCreature=OBJECT_SELF);",
  declare 793 "SetCreatureBodyPart" 2 void [int, int, object]
    "void SetCreatureBodyPart(int nPart, int nModelNumber, object oCreature=OBJECT_SELF);",
  declare 794 "GetCreatureTailType" 0 int [object]
    "int GetCreatureTailType(object oCreature=OBJECT_SELF);",
  declare 795 "SetCreatureTailType" 1 void [int, object]
    "void SetCreatureTailType(int nTailType, object oCreature=OBJECT_SELF);",
  declare 796 "GetHardness" 0 int [object]
    "int GetHardness(object oObject=OBJECT_SELF);",
  declare 797 "SetHardness" 1 void [int, object]
    "void SetHardness(int nHardness, object oObject=OBJECT_SELF);",
  declare 798 "SetLockKeyRequired" 1 void [object, int]
    "void SetLockKeyRequired(object oObject, int nKeyRequired=TRUE);",
  declare 799 "SetLockKeyTag" 2 void [object, string]
    "void SetLockKeyTag(object oObject, string sNewKeyTag);",
  declare 800 "SetLockLockable" 1 void [object, int]
    "void SetLockLockable(object oObject, int nLockable=TRUE);",
  declare 801 "SetLockUnlockDC" 2 void [object, int]
    "void SetLockUnlockDC(object oObject, int nNewUnlockDC);",
  declare 802 "SetLockLockDC" 2 void [object, int]
    "void SetLockLockDC(object oObject, int nNewLockDC);",
  declare 803 "SetTrapDisarmable" 1 void [object, int]
    "void SetTrapDisarmable(object oTrapObject, int nDisarmable=TRUE);",
  declare 804 "SetTrapDetectable" 1 void [object, int]
    "void SetTrapDetectable(object oTrapObject, int nDetectable=TRUE);",
  declare 805 "SetTrapOneShot" 1 void [object, int]
    "void SetTrapOneShot(object oTrapObject, int nOneShot=TRUE);",
  declare 806 "SetTrapKeyTag" 2 void [object, string]
    "void SetTrapKeyTag(object oTrapObject, string sKeyTag);",
  declare 807 "SetTrapDisarmDC" 2 void [object, int]
    "void SetTrapDisarmDC(object oTrapObject, int nDisarmDC);",
  declare 808 "SetTrapDetectDC" 2 void [object, int]
    "void SetTrapDetectDC(object oTrapObject, int nDetectDC);",
  declare 809 "CreateTrapAtLocation" 2 object [int, location, float, string, int, string, string]
    "object CreateTrapAtLocation(int nTrapType, location lLocation, float fSize=2.0f, string sTag=\"\", int nFaction=STANDARD_FACTION_HOSTILE, string sOnDisarmScript=\"\", string sOnTrapTriggeredScript=\"\");",
  declare 810 "CreateTrapOnObject" 2 void [int, object, int, string, string]
    "void CreateTrapOnObject(int nTrapType, object oObject, int nFaction=STANDARD_FACTION_HOSTILE, string sOnDisarmScript=\"\", string sOnTrapTriggeredScript=\"\");",
  declare 811 "SetWillSavingThrow" 2 void [object, int]
    "void SetWillSavingThrow(object oObject, int nWillSave);",
  declare 812 "SetReflexSavingThrow" 2 void [object, int]
    "void SetReflexSavingThrow(object oObject, int nReflexSave);",
  declare 813 "SetFortitudeSavingThrow" 2 void [object, int]
    "void SetFortitudeSavingThrow(object oObject, int nFortitudeSave);",
  declare 814 "GetTilesetResRef" 1 string [object]
    "string GetTilesetResRef(object oArea);",
  declare 815 "GetTrapRecoverable" 1 int [object]
    "int GetTrapRecoverable(object oTrapObject);",
  declare 816 "SetTrapRecoverable" 1 void [object, int]
    "void SetTrapRecoverable(object oTrapObject, int nRecoverable=TRUE);",
  declare 817 "GetModuleXPScale" 0 int []
    "int GetModuleXPScale();",
  declare 818 "SetModuleXPScale" 1 void [int]
    "void SetModuleXPScale(int nXPScale);",
  declare 819 "GetKeyRequiredFeedback" 1 string [object]
    "string GetKeyRequiredFeedback(object oObject);",
  declare 820 "SetKeyRequiredFeedback" 2 void [object, string]
    "void SetKeyRequiredFeedback(object oObject, string sFeedbackMessage);",
  declare 821 "GetTrapActive" 1 int [object]
    "int GetTrapActive(object oTrapObject);",
  declare 822 "SetTrapActive" 1 void [object, int]
    "void SetTrapActive(object oTrapObject, int nActive=TRUE);",
  declare 823 "LockCameraPitch" 1 void [object, int]
    "void LockCameraPitch(object oPlayer, int bLocked=TRUE);",
  declare 824 "LockCameraDistance" 1 void [object, int]
    "void LockCameraDistance(object oPlayer, int bLocked=TRUE);",
  declare 825 "LockCameraDirection" 1 void [object, int]
    "void LockCameraDirection(object oPlayer, int bLocked=TRUE);",
  declare 826 "GetPlaceableLastClickedBy" 0 object []
    "object GetPlaceableLastClickedBy();",
  declare 827 "GetInfiniteFlag" 1 int [object]
    "int GetInfiniteFlag(object oItem);",
  declare 828 "SetInfiniteFlag" 1 void [object, int]
    "void SetInfiniteFlag(object oItem, int bInfinite=TRUE);",
  declare 829 "GetAreaSize" 1 int [int, object]
    "int GetAreaSize(int nAreaDimension, object oArea=OBJECT_INVALID);",
  declare 830 "GetScriptHidden" 1 int [object]
    "int GetScriptHidden(object oObject);",
  declare 831 "SetScriptHidden" 2 void [object, int, int]
    "void SetScriptHidden(object oObject, int bHidden, int bDisableUI=TRUE);",
  declare 832 "SetGlobalInt" 2 int [string, int]
    "int SetGlobalInt(string sName, int nValue);",
  declare 833 "SetGlobalBool" 2 int [string, int]
    "int SetGlobalBool(string sName, int bValue);",
  declare 834 "SetGlobalString" 2 int [string, string]
    "int SetGlobalString(string sName, string sValue);",
  declare 835 "SetGlobalFloat" 2 int [string, float]
    "int SetGlobalFloat(string sName, float fValue);",
  declare 836 "GetGlobalInt" 1 int [string]
    "int GetGlobalInt(string sName);",
  declare 837 "GetGlobalBool" 1 int [string]
    "int GetGlobalBool(string sName);",
  declare 838 "GetGlobalString" 1 string [string]
    "string GetGlobalString(string sName);",
  declare 839 "GetGlobalFloat" 1 float [string]
    "float GetGlobalFloat(string sName);",
  declare 840 "SaveGlobalVariables" 0 int [string]
    "int SaveGlobalVariables(string sSaveName=\"\");",
  declare 841 "LoadGlobalVariables" 0 int [string]
    "int LoadGlobalVariables(string sLoadName=\"\");",
  declare 842 "MountObject" 2 void [object, object]
    "void MountObject(object oMountingObject, object oObjectToMount);",
  declare 843 "DismountObject" 2 void [object, object]
    "void DismountObject(object oDismountingObject, object oObjectToDismount);",
  declare 844 "GetJournalEntry" 2 int [string, object]
    "int GetJournalEntry(string szPlotID, object oObjectJournal);",
  declare 845 "EffectNWN2ParticleEffect" 0 effect []
    "effect EffectNWN2ParticleEffect();",
  declare 846 "EffectNWN2ParticleEffectFile" 1 effect [string]
    "effect EffectNWN2ParticleEffectFile(string sDefinitionFile);",
  declare 847 "EffectNWN2SpecialEffectFile" 1 effect [string, object, vector]
    "effect EffectNWN2SpecialEffectFile(string sFileName, object oTarget=OBJECT_INVALID, vector vTargetPosition=[0.0,0.0,0.0]);"]

end EngineActions.Shipped
