import EngineActions.Action

namespace EngineActions.Shipped
open ValueType

def nwn2From848 : List Declaration := [
  declare 848 "GetSpellLevel" 1 int [int]
    "int GetSpellLevel(int nSpellID);",
  declare 849 "RemoveSEFFromObject" 2 void [object, string]
    "void RemoveSEFFromObject(object oObject, string sSEFName);",
  declare 850 "ActionPauseCutscene" 1 void [int, int]
    "void ActionPauseCutscene(int nTimeoutSecs, int bPurgeCutsceneActionsOnTimeout=FALSE);",
  declare 851 "AssignCutsceneActionToObject" 2 void [object, action]
    "void AssignCutsceneActionToObject(object oObject, action aAction);",
  declare 852 "GetCharBackground" 1 int [object]
    "int GetCharBackground(object oCreature);",
  declare 853 "SetOrientOnDialog" 2 void [object, int]
    "void SetOrientOnDialog(object oCreature, int nValue);",
  declare 854 "EffectDetectUndead" 0 effect []
    "effect EffectDetectUndead();",
  declare 855 "EffectLowLightVision" 0 effect []
    "effect EffectLowLightVision();",
  declare 856 "EffectSetScale" 1 effect [float, float, float]
    "effect EffectSetScale(float fScaleX, float fScaleY=-1.0f, float fScaleZ=-1.0f);",
  declare 857 "EffectShareDamage" 1 effect [object, int, int]
    "effect EffectShareDamage(object oHelper, int nAmtShared=50, int nAmtSharedType=0);",
  declare 858 "EffectAssayResistance" 1 effect [object]
    "effect EffectAssayResistance(object oTarget);",
  declare 859 "EffectSeeTrueHPs" 0 effect []
    "effect EffectSeeTrueHPs();",
  declare 860 "GetNumCutsceneActionsPending" 0 int []
    "int GetNumCutsceneActionsPending();",
  declare 861 "EffectDamageOverTime" 2 effect [int, float, int, int]
    "effect EffectDamageOverTime(int nAmount, float fIntervalSeconds, int nDamageType=DAMAGE_TYPE_MAGICAL, int nIgnoreResistances=FALSE);",
  declare 862 "EffectAbsorbDamage" 1 effect [int]
    "effect EffectAbsorbDamage(int nACTest);",
  declare 863 "EffectHideousBlow" 1 effect [int]
    "effect EffectHideousBlow(int nMetaMagic);",
  declare 864 "EffectMesmerize" 1 effect [int, float]
    "effect EffectMesmerize(int nBreakFlags, float fBreakDist=0.0f);",
  declare 865 "GetSpellFeatId" 0 int []
    "int GetSpellFeatId();",
  declare 866 "SetFog" 6 void [object, int, int, float, float, float]
    "void SetFog(object oTarget, int nFogType, int nColor, float fFogStart, float fFogEnd, float fFarClipPlaneDistance);",
  declare 867 "EffectDarkVision" 0 effect []
    "effect EffectDarkVision();",
  declare 868 "DebugPostString" 5 void [object, string, int, int, float, int]
    "void DebugPostString(object oTarget, string sMesg, int nX, int nY, float fDuration, int nColor=4294901760);",
  declare 869 "GetHasAnySpellEffect" 1 int [object]
    "int GetHasAnySpellEffect(object oObject);",
  declare 870 "EffectArmorCheckPenaltyIncrease" 2 effect [object, int]
    "effect EffectArmorCheckPenaltyIncrease(object oTarget, int nPenaltyAmt);",
  declare 871 "EffectDisintegrate" 1 effect [object]
    "effect EffectDisintegrate(object oTarget);",
  declare 872 "EffectHealOnZeroHP" 2 effect [object, int]
    "effect EffectHealOnZeroHP(object oTarget, int nDmgToHealAmt);",
  declare 873 "EffectBreakEnchantment" 1 effect [int]
    "effect EffectBreakEnchantment(int nLevel);",
  declare 874 "GetFirstEnteringPC" 0 object []
    "object GetFirstEnteringPC();",
  declare 875 "GetNextEnteringPC" 0 object []
    "object GetNextEnteringPC();",
  declare 876 "AddRosterMemberByTemplate" 2 int [string, string]
    "int AddRosterMemberByTemplate(string sRosterName, string sTemplate);",
  declare 877 "AddRosterMemberByCharacter" 2 int [string, object]
    "int AddRosterMemberByCharacter(string sRosterName, object oCharacter);",
  declare 878 "RemoveRosterMember" 1 int [string]
    "int RemoveRosterMember(string sRosterName);",
  declare 879 "GetIsRosterMemberAvailable" 1 int [string]
    "int GetIsRosterMemberAvailable(string sRosterName);",
  declare 880 "GetIsRosterMemberSelectable" 1 int [string]
    "int GetIsRosterMemberSelectable(string sRosterName);",
  declare 881 "SetIsRosterMemberSelectable" 2 int [string, int]
    "int SetIsRosterMemberSelectable(string sRosterName, int bSelectable);",
  declare 882 "GetObjectFromRosterName" 1 object [string]
    "object GetObjectFromRosterName(string sRosterName);",
  declare 883 "GetRosterNameFromObject" 1 string [object]
    "string GetRosterNameFromObject(object oCreature);",
  declare 884 "SpawnRosterMember" 2 object [string, location]
    "object SpawnRosterMember(string sRosterName, location lLocation);",
  declare 885 "DespawnRosterMember" 1 int [string]
    "int DespawnRosterMember(string sRosterName);",
  declare 886 "AddRosterMemberToParty" 2 int [string, object]
    "int AddRosterMemberToParty(string sRosterName, object oPC);",
  declare 887 "RemoveRosterMemberFromParty" 2 void [string, object, int]
    "void RemoveRosterMemberFromParty(string sRosterName, object oPC, int bDespawnNPC=TRUE);",
  declare 888 "GetFirstRosterMember" 0 string []
    "string GetFirstRosterMember();",
  declare 889 "GetNextRosterMember" 0 string []
    "string GetNextRosterMember();",
  declare 890 "SpawnSpellProjectile" 6 void [object, object, location, location, int, int]
    "void SpawnSpellProjectile(object oSource, object oTarget, location lSource, location lTarget, int nSpellID, int nProjectilePathType);",
  declare 891 "SpawnItemProjectile" 8 void [object, object, location, location, int, int, int, int]
    "void SpawnItemProjectile(object oSource, object oTarget, location lSource, location lTarget, int nBaseItemID, int nProjectilePathType, int nAttackResult, int nDamageTypeFlag);",
  declare 892 "GetIsOwnedByPlayer" 1 int [object]
    "int GetIsOwnedByPlayer(object oCreature);",
  declare 893 "SetOwnersControlledCompanion" 1 int [object, object]
    "int SetOwnersControlledCompanion(object oCurrentCreature, object oTargetCreature=OBJECT_INVALID);",
  declare 894 "SetCreatureScriptsToSet" 2 void [object, int]
    "void SetCreatureScriptsToSet(object oCreature, int nScriptSet);",
  declare 895 "GetProjectileTypeRequested" 1 int [object]
    "int GetProjectileTypeRequested(object oCreature);",
  declare 896 "GetItemPropActivation" 1 int [object]
    "int GetItemPropActivation(object oItem);",
  declare 897 "SetItemPropActivation" 2 void [object, int]
    "void SetItemPropActivation(object oItem, int nPropActivation);",
  declare 898 "GetIsRosterMemberCampaignNPC" 1 int [string]
    "int GetIsRosterMemberCampaignNPC(string sRosterName);",
  declare 899 "SetIsRosterMemberCampaignNPC" 2 int [string, int]
    "int SetIsRosterMemberCampaignNPC(string sRosterName, int nCampaignNPC);",
  declare 900 "GetIsRosterNPC" 1 int [object]
    "int GetIsRosterNPC(object oCreature);",
  declare 901 "SetLocalGUIVariable" 4 void [object, string, int, string]
    "void SetLocalGUIVariable(object oPlayer, string sScreenName, int nVarIndex, string sVarValue);",
  declare 902 "SetGUIObjectDisabled" 4 void [object, string, string, int]
    "void SetGUIObjectDisabled(object oPlayer, string sScreenName, string sUIObjectName, int bDisabled);",
  declare 903 "SetGUIObjectText" 5 void [object, string, string, int, string]
    "void SetGUIObjectText(object oPlayer, string sScreenName, string sUIObjectName, int nStrRef, string sText);",
  declare 904 "CloseGUIScreen" 2 void [object, string]
    "void CloseGUIScreen(object oPlayer, string sScreenName);",
  declare 905 "FeatAdd" 3 int [object, int, int, int, int]
    "int FeatAdd(object oCreature, int iFeatId, int bCheckRequirements, int bFeedback=FALSE, int bNotice=FALSE);",
  declare 906 "FeatRemove" 2 void [object, int]
    "void FeatRemove(object oCreature, int iFeatId);",
  declare 907 "SetCanTalkToNonPlayerOwnedCreatures" 2 void [object, int]
    "void SetCanTalkToNonPlayerOwnedCreatures(object oObject, int bCanTalk);",
  declare 908 "GetCanTalkToNonPlayerOwnedCreatures" 1 int [object]
    "int GetCanTalkToNonPlayerOwnedCreatures(object oObject);",
  declare 909 "SetLevelUpPackage" 2 void [object, int]
    "void SetLevelUpPackage(object oCreature, int nPackage);",
  declare 910 "GetLevelUpPackage" 1 int [object]
    "int GetLevelUpPackage(object oCreature);",
  declare 911 "SetCombatOverrides" 11 void [object, object, int, int, int, int, int, int, int, int, int]
    "void SetCombatOverrides(object oCreature, object oTarget, int nOnHandAttacks, int nOffHandAttacks, int nAttackResult, int nMinDamage, int nMaxDamage, int bSuppressBroadcastAOO, int bSuppressMakeRAO, int bIgnoreTargetReaction, int bSuppressFeedbackText);",
  declare 912 "ClearCombatOverrides" 1 void [object]
    "void ClearCombatOverrides(object oCreature);",
  declare 913 "ResetCreatureLevelForXP" 3 void [object, int, int]
    "void ResetCreatureLevelForXP(object oTargetCreature, int nExperience, int bUseXPMods);",
  declare 914 "CalcPointAwayFromPoint" 5 location [location, location, float, float, int]
    "location CalcPointAwayFromPoint(location lPoint, location lAwayFromPoint, float fDistance, float fAngularVariance, int bComputeDistFromStart);",
  declare 915 "CalcSafeLocation" 5 location [object, location, float, int, int]
    "location CalcSafeLocation(object oCreature, location lTestPosition, float fSearchRadius, int bWalkStraighLineRequired, int bIgnoreTestPosition);",
  declare 916 "GetTotalLevels" 2 int [object, int]
    "int GetTotalLevels(object oCreature, int bIncludeNegativeLevels);",
  declare 917 "ResetFeatUses" 4 void [object, int, int, int]
    "void ResetFeatUses(object oCreature, int nFeatID, int bResetDailyUses, int bResetLastUseTime);",
  declare 918 "SetNWN2Fog" 5 void [object, int, int, float, float]
    "void SetNWN2Fog(object oTarget, int nFogType, int nColor, float fFogStart, float fFogEnd);",
  declare 919 "ResetNWN2Fog" 2 void [object, int]
    "void ResetNWN2Fog(object oTarget, int nFogType);",
  declare 920 "EffectBonusHitpoints" 1 effect [int]
    "effect EffectBonusHitpoints(int nHitpoints);",
  declare 921 "SetGUIProgressBarPosition" 4 void [object, string, string, float]
    "void SetGUIProgressBarPosition(object oPlayer, string sScreenName, string sUIObjectName, float fPosition);",
  declare 922 "SetGUITexture" 4 void [object, string, string, string]
    "void SetGUITexture(object oPlayer, string sScreenName, string sUIObjectName, string sTexture);",
  declare 923 "EffectBardSongSinging" 1 effect [int]
    "effect EffectBardSongSinging(int nSpellId);",
  declare 924 "EffectJarring" 0 effect []
    "effect EffectJarring();",
  declare 925 "EffectBABMinimum" 1 effect [int]
    "effect EffectBABMinimum(int nBABMin);",
  declare 926 "GetTRUEBaseAttackBonus" 1 int [object]
    "int GetTRUEBaseAttackBonus(object oTarget);",
  declare 927 "SetFirstName" 2 void [object, string]
    "void SetFirstName(object oCreature, string sFirstName);",
  declare 928 "SetLastName" 2 void [object, string]
    "void SetLastName(object oCreature, string sLastName);",
  declare 929 "GetFirstName" 1 string [object]
    "string GetFirstName(object oCreature);",
  declare 930 "GetLastName" 1 string [object]
    "string GetLastName(object oCreature);",
  declare 931 "EffectArcaneSpellFailure" 1 effect [int]
    "effect EffectArcaneSpellFailure(int nPercent);",
  declare 932 "SpawnBloodHit" 3 void [object, int, object]
    "void SpawnBloodHit(object oCreature, int bCriticalHit, object oAttacker);",
  declare 933 "GetFirstArea" 0 object []
    "object GetFirstArea();",
  declare 934 "GetNextArea" 0 object []
    "object GetNextArea();",
  declare 935 "GetArmorRank" 1 int [object]
    "int GetArmorRank(object oItem);",
  declare 936 "GetWeaponType" 1 int [object]
    "int GetWeaponType(object oItem);",
  declare 937 "GetPlayerCurrentTarget" 1 object [object]
    "object GetPlayerCurrentTarget(object oCreature);",
  declare 938 "EffectWildshape" 0 effect []
    "effect EffectWildshape();",
  declare 939 "GetEncumbranceState" 1 int [object]
    "int GetEncumbranceState(object oCreature);",
  declare 940 "PackCampaignDatabase" 1 void [string]
    "void PackCampaignDatabase(string sCampaignName);",
  declare 941 "UnlinkDoor" 1 void [object]
    "void UnlinkDoor(object oDoor);",
  declare 942 "GetPlayerCreatureExamineTarget" 1 object [object]
    "object GetPlayerCreatureExamineTarget(object oCreature);",
  declare 943 "Clear2DACache" 0 void []
    "void Clear2DACache();",
  declare 944 "DisplayGuiScreen" 3 int [object, string, int, string, int]
    "int DisplayGuiScreen(object oPlayer, string sScreenName, int bModal, string sFileName=\"\", int bOverrideOptions=FALSE);",
  declare 945 "SetGUIObjectHidden" 4 void [object, string, string, int]
    "void SetGUIObjectHidden(object oPlayer, string sScreenName, string sUIObjectName, int bHidden);",
  declare 946 "DisplayMessageBox" 3 void [object, int, string, string, string, int, string, int, string, int, string]
    "void DisplayMessageBox(object oPC, int nMessageStrRef, string sMessage, string sOkCB=\"\", string sCancelCB=\"\", int bShowCancel=FALSE, string sScreenName=\"\", int nOkStrRef=0, string sOkString=\"\", int nCancelStrRef=0, string sCancelString=\"\");",
  declare 947 "DisplayInputBox" 3 void [object, int, string, string, string, int, string, int, string, int, string, string, string]
    "void DisplayInputBox(object oPC, int nMessageStrRef, string sMessage, string sOkCB=\"\", string sCancelCB=\"\", int bShowCancel=FALSE, string sScreenName=\"\", int nOkStrRef=0, string sOkString=\"\", int nCancelStrRef=0, string sCancelString=\"\", string sDefaultString=\"\", string sUnknown=\"\");",
  declare 948 "EffectMaxDamage" 0 effect []
    "effect EffectMaxDamage();",
  declare 949 "EffectRescue" 1 effect [int]
    "effect EffectRescue(int nSpellId);",
  declare 950 "EffectDetectSpirits" 0 effect []
    "effect EffectDetectSpirits();",
  declare 951 "EffectDamageReductionNegated" 0 effect []
    "effect EffectDamageReductionNegated();",
  declare 952 "EffectConcealmentNegated" 0 effect []
    "effect EffectConcealmentNegated();",
  declare 953 "EffectInsane" 0 effect []
    "effect EffectInsane();",
  declare 954 "EffectOnDispel" 2 effect [float, action]
    "effect EffectOnDispel(float fDelay, action aOnDispelEffect);",
  declare 955 "EffectSummonCopy" 1 effect [object, int, float, string, int, string]
    "effect EffectSummonCopy(object oSource, int nVisualEffectId=VFX_NONE, float fDelaySeconds=0.0f, string sNewTag=\"\", int nNewHP=0, string sScript=\"\");",
  declare 956 "GetTalkTableLanguage" 0 int []
    "int GetTalkTableLanguage();",
  declare 957 "SetPlayerGUIHidden" 2 void [object, int]
    "void SetPlayerGUIHidden(object oPlayer, int bHidden);",
  declare 958 "GetPartyMembersDyingFlag" 0 int []
    "int GetPartyMembersDyingFlag();",
  declare 959 "SetListBoxRowSelected" 4 void [object, string, string, string]
    "void SetListBoxRowSelected(object oPlayer, string sScreenName, string sListBox, string sRow);",
  declare 960 "SetScrollBarRanges" 7 void [object, string, string, int, int, int, int]
    "void SetScrollBarRanges(object oPlayer, string sScreenName, string sScrollBarName, int nMinSize, int nMaxSize, int nMinValue, int nMaxValue);",
  declare 961 "ClearListBox" 3 void [object, string, string]
    "void ClearListBox(object oPlayer, string sScreenName, string sListBox);",
  declare 962 "AddListBoxRow" 8 int [object, string, string, string, string, string, string, string]
    "int AddListBoxRow(object oPlayer, string sScreenName, string sListBox, string sRowName, string sTextFields, string sTextures, string sVariables, string sHideUnhide);",
  declare 963 "RemoveListBoxRow" 4 void [object, string, string, string]
    "void RemoveListBoxRow(object oPlayer, string sScreenName, string sListBox, string sRowName);",
  declare 964 "ModifyListBoxRow" 8 int [object, string, string, string, string, string, string, string]
    "int ModifyListBoxRow(object oPlayer, string sScreenName, string sListBox, string sRowName, string sTextFields, string sTextures, string sVariables, string sHideUnhide);",
  declare 965 "SetFactionLeader" 1 void [object]
    "void SetFactionLeader(object oNewLeader);",
  declare 966 "GetFirstSubArea" 2 object [object, vector]
    "object GetFirstSubArea(object oArea, vector vPosition);",
  declare 967 "GetNextSubArea" 1 object [object]
    "object GetNextSubArea(object oArea);",
  declare 968 "GetMovementRateFactor" 1 float [object]
    "float GetMovementRateFactor(object oCreature);",
  declare 969 "SetMovementRateFactor" 2 void [object, float]
    "void SetMovementRateFactor(object oCreature, float fFactor);",
  declare 970 "GetBicFileName" 1 string [object]
    "string GetBicFileName(object oPC);",
  declare 971 "GetCollision" 1 int [object]
    "int GetCollision(object oTarget);",
  declare 972 "SetCollision" 2 void [object, int]
    "void SetCollision(object oTarget, int bCollision);",
  declare 973 "GetItemIcon" 1 int [object]
    "int GetItemIcon(object oTarget);",
  declare 974 "SetItemIcon" 2 void [object, int]
    "void SetItemIcon(object oTarget, int nIcon);",
  declare 975 "GetVariableCount" 1 int [object]
    "int GetVariableCount(object oTarget);",
  declare 976 "GetVariableName" 2 string [object, int]
    "string GetVariableName(object oTarget, int nIndex);",
  declare 977 "GetVariableType" 2 int [object, int]
    "int GetVariableType(object oTarget, int nIndex);",
  declare 978 "GetVariableValueInt" 2 int [object, int]
    "int GetVariableValueInt(object oTarget, int nIndex);",
  declare 979 "GetVariableValueFloat" 2 float [object, int]
    "float GetVariableValueFloat(object oTarget, int nIndex);",
  declare 980 "GetVariableValueString" 2 string [object, int]
    "string GetVariableValueString(object oTarget, int nIndex);",
  declare 981 "GetVariableValueObject" 2 object [object, int]
    "object GetVariableValueObject(object oTarget, int nIndex);",
  declare 982 "GetVariableValueLocation" 2 location [object, int]
    "location GetVariableValueLocation(object oTarget, int nIndex);",
  declare 983 "SetScrollBarValue" 4 void [object, string, string, int]
    "void SetScrollBarValue(object oPlayer, string sScreenName, string sScrollBarName, int nValue);",
  declare 984 "SetUnrestrictedLevelUp" 2 void [object, int]
    "void SetUnrestrictedLevelUp(object oCreature, int bUnrestricted);",
  declare 985 "GetUnrestrictedLevelUp" 1 int [object]
    "int GetUnrestrictedLevelUp(object oCreature);",
  declare 986 "GetSoundFileDuration" 1 float [string]
    "float GetSoundFileDuration(string sSoundFile);",
  declare 987 "GetPartyName" 0 string []
    "string GetPartyName();",
  declare 988 "GetPartyMotto" 0 string []
    "string GetPartyMotto();",
  declare 989 "GetIsOverlandMap" 1 int [object]
    "int GetIsOverlandMap(object oArea);",
  declare 990 "EffectEnemyAttackBonus" 1 effect [int]
    "effect EffectEnemyAttackBonus(int nBonus);",
  declare 991 "SetKnownSpell" 5 void [object, int, int, int, int]
    "void SetKnownSpell(object oCreature, int nClassPosition, int nSpellLevel, int nSpellIndex, int nSpellID);",
  declare 992 "GetKnownSpellCount" 3 int [object, int, int]
    "int GetKnownSpellCount(object oCreature, int nClassPosition, int nSpellLevel);",
  declare 993 "GetKnownSpellId" 4 int [object, int, int, int]
    "int GetKnownSpellId(object oCreature, int nClassPosition, int nSpellLevel, int nSpellIndex);",
  declare 994 "AddKnownSpell" 4 int [object, int, int, int]
    "int AddKnownSpell(object oCreature, int nClassPosition, int nSpellLevel, int nSpellID);",
  declare 995 "RemoveKnownSpell" 4 int [object, int, int, int]
    "int RemoveKnownSpell(object oCreature, int nClassPosition, int nSpellLevel, int nSpellID);",
  declare 996 "GetIsSinglePlayer" 0 int []
    "int GetIsSinglePlayer();",
  declare 997 "SetCustomHeartbeat" 2 void [object, int]
    "void SetCustomHeartbeat(object oTarget, int nMSeconds);",
  declare 998 "GetCustomHeartbeat" 1 int [object]
    "int GetCustomHeartbeat(object oTarget);",
  declare 999 "SetEffectSpellId" 2 effect [effect, int]
    "effect SetEffectSpellId(effect eEffect, int nSpellId);",
  declare 1000 "GetIsCompanionPossessionBlocked" 1 int [object]
    "int GetIsCompanionPossessionBlocked(object oCreature);",
  declare 1001 "SetIsCompanionPossessionBlocked" 2 void [object, int]
    "void SetIsCompanionPossessionBlocked(object oCreature, int bBlocked);",
  declare 1002 "GetControlledCharacter" 1 object [object]
    "object GetControlledCharacter(object oCreature);",
  declare 1003 "GetOwnedCharacter" 1 object [object]
    "object GetOwnedCharacter(object oControlled);",
  declare 1004 "GetIsSpirit" 1 int [object]
    "int GetIsSpirit(object oCreature);",
  declare 1005 "SetLightActive" 2 void [object, int]
    "void SetLightActive(object oLight, int bActive);",
  declare 1006 "GetLightActive" 1 int [object]
    "int GetLightActive(object oLight);",
  declare 1007 "SetLightDiffuseColor" 2 void [object, int]
    "void SetLightDiffuseColor(object oLight, int nColor);",
  declare 1008 "SetLightSpecularColor" 2 void [object, int]
    "void SetLightSpecularColor(object oLight, int nColor);",
  declare 1009 "SetLightAmbientColor" 2 void [object, int]
    "void SetLightAmbientColor(object oLight, int nColor);",
  declare 1010 "SetLightIntensity" 2 void [object, float]
    "void SetLightIntensity(object oLight, float fIntensity);",
  declare 1011 "SetLightRange" 2 void [object, float]
    "void SetLightRange(object oLight, float fRange);",
  declare 1012 "JumpPartyToArea" 2 void [object, object]
    "void JumpPartyToArea(object oPartyMember, object oDestination);",
  declare 1013 "SetRosterNPCPartyLimit" 1 void [int]
    "void SetRosterNPCPartyLimit(int nLimit);",
  declare 1014 "GetRosterNPCPartyLimit" 0 int []
    "int GetRosterNPCPartyLimit();",
  declare 1015 "GetNum2DARows" 1 int [string]
    "int GetNum2DARows(string s2DAName);",
  declare 1016 "GetNum2DAColumns" 1 int [string]
    "int GetNum2DAColumns(string s2DAName);",
  declare 1017 "PlayCustomAnimation" 3 int [object, string, int, float]
    "int PlayCustomAnimation(object oObject, string sAnimationName, int nLooping, float fSpeed=1.0f);",
  declare 1018 "SetBaseAbilityScore" 3 void [object, int, int]
    "void SetBaseAbilityScore(object oCreature, int nAbilityType, int nScore);",
  declare 1019 "SetBaseSkillRank" 3 void [object, int, int, int]
    "void SetBaseSkillRank(object oCreature, int nSkill, int nRank, int bTrackWithLevel=TRUE);",
  declare 1020 "SendChatMessage" 4 void [object, object, int, string, int]
    "void SendChatMessage(object oSender, object oReceiver, int nChannel, string sMessage, int bInvokeCallback=FALSE);",
  declare 1021 "GetIsLocationValid" 1 int [location]
    "int GetIsLocationValid(location lLocation);",
  declare 1022 "GetSkillPointsRemaining" 1 int [object]
    "int GetSkillPointsRemaining(object oCreature);",
  declare 1023 "SetSkillPointsRemaining" 2 void [object, int]
    "void SetSkillPointsRemaining(object oCreature, int nPoints);",
  declare 1024 "CreateInstancedAreaFromSource" 1 object [object]
    "object CreateInstancedAreaFromSource(object oArea);",
  declare 1025 "SetWeaponVisibility" 2 void [object, int, int]
    "void SetWeaponVisibility(object oCreature, int nVisibile, int nType=0);",
  declare 1026 "SetLookAtTarget" 2 void [object, vector, int]
    "void SetLookAtTarget(object oObject, vector vTarget, int nType=0);",
  declare 1027 "GetBumpState" 1 int [object]
    "int GetBumpState(object oCreature);",
  declare 1028 "SetBumpState" 2 void [object, int]
    "void SetBumpState(object oCreature, int nBumpState);",
  declare 1029 "GetOnePartyMode" 0 int []
    "int GetOnePartyMode();",
  declare 1030 "GetPrimaryPlayer" 0 object []
    "object GetPrimaryPlayer();",
  declare 1031 "SetNoticeText" 2 void [object, string]
    "void SetNoticeText(object oPC, string sText);",
  declare 1032 "SetLimboFlag" 2 void [object, int]
    "void SetLimboFlag(object oCreature, int bLimbo);",
  declare 1033 "GetLimboFlag" 1 int [object]
    "int GetLimboFlag(object oCreature);",
  declare 1034 "SetRenderWaterInArea" 2 void [object, int]
    "void SetRenderWaterInArea(object oArea, int bRender);",
  declare 1035 "GetPCAIScriptTarget" 1 object [object]
    "object GetPCAIScriptTarget(object oPC);",
  declare 1036 "GetSpellKnown" 2 int [object, int]
    "int GetSpellKnown(object oCreature, int nSpell);",
  declare 1037 "GetLastSpellCastSpontaneous" 0 int []
    "int GetLastSpellCastSpontaneous();",
  declare 1038 "SetSpontaneousCastAllowed" 2 void [object, int]
    "void SetSpontaneousCastAllowed(object oCreature, int bAllowed);",
  declare 1039 "GetCasterClassSpellSchool" 2 int [object, int]
    "int GetCasterClassSpellSchool(object oCreature, int nClassPosition);",
  declare 1040 "SetPlayerAreaTransitionBMP" 1 void [int, string]
    "void SetPlayerAreaTransitionBMP(int nPredefinedAreaTransition, string sCustomAreaTransitionBMP=\"\");",
  declare 1041 "GetIsPartyTransition" 1 int [object]
    "int GetIsPartyTransition(object oObject);",
  declare 1042 "SetIsPartyTransition" 2 void [object, int]
    "void SetIsPartyTransition(object oObject, int bPartyTransition);",
  declare 1043 "SetGUIObjectTooltip" 5 void [object, string, string, int, string]
    "void SetGUIObjectTooltip(object oPlayer, string sScreenName, string sUIObjectName, int nStrRef, string sText);",
  declare 1044 "SetPartyMembersDyingFlag" 1 void [int]
    "void SetPartyMembersDyingFlag(int bDying);",
  declare 1045 "GetIsDestroyable" 1 int [object]
    "int GetIsDestroyable(object oObject);",
  declare 1046 "ForceRestParty" 1 void [object]
    "void ForceRestParty(object oPC);",
  declare 1047 "GetRoundsInCombat" 1 int [object]
    "int GetRoundsInCombat(object oCreature);",
  declare 1048 "SetLocalGUIVariableInt" 4 void [object, string, int, int]
    "void SetLocalGUIVariableInt(object oPlayer, string sScreenName, int nVarIndex, int nVarValue);",
  declare 1049 "GetStealthDC" 1 int [object]
    "int GetStealthDC(object oCreature);",
  declare 1050 "SetBaseAttackBonusOverride" 2 void [object, int]
    "void SetBaseAttackBonusOverride(object oCreature, int nBAB);",
  declare 1051 "GetRestState" 1 int [object]
    "int GetRestState(object oCreature);",
  declare 1052 "SetRestState" 2 void [object, int]
    "void SetRestState(object oCreature, int nState);",
  declare 1053 "GetSlowFallEnabled" 1 int [object]
    "int GetSlowFallEnabled(object oCreature);",
  declare 1054 "GetScale" 2 float [object, int]
    "float GetScale(object oObject, int nAxis);",
  declare 1055 "SetScale" 4 void [object, float, float, float]
    "void SetScale(object oObject, float fX, float fY, float fZ);",
  declare 1056 "GetDialogActive" 1 int [object]
    "int GetDialogActive(object oCreature);",
  declare 1057 "SetDialogFollowMode" 2 void [object, int]
    "void SetDialogFollowMode(object oCreature, int nMode);"]

end EngineActions.Shipped
